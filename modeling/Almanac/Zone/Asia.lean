import Almanac.Zone

/-! # Clock changes in Asia

Each zone starts with its local mean time or its first standard time and lists every
change of its clocks, as the second of universal time and the offset from then on, in
seconds.  Yearly changes are listed through the year 2099.
-/
namespace Almanac.Zone

/-- The clocks of Asia/Kolkata. -/
def kolkata : Zone where
  name := "Asia/Kolkata"
  firstOffset := 21208
  changes := [
    ⟨-3645237208, 21200⟩, ⟨-3155694800, 19270⟩, ⟨-2019705670, 19800⟩, ⟨-891581400, 23400⟩,
    ⟨-872058600, 19800⟩, ⟨-862637400, 23400⟩, ⟨-764145000, 19800⟩]

/-- The clocks of Asia/Kathmandu. -/
def kathmandu : Zone where
  name := "Asia/Kathmandu"
  firstOffset := 20476
  changes := [
    ⟨-1577943676, 19800⟩, ⟨504901800, 20700⟩]

/-- The clocks of Asia/Tokyo. -/
def tokyo : Zone where
  name := "Asia/Tokyo"
  firstOffset := 33539
  changes := [
    ⟨-2587745939, 32400⟩, ⟨-683802000, 36000⟩, ⟨-672310800, 32400⟩, ⟨-654771600, 36000⟩,
    ⟨-640861200, 32400⟩, ⟨-620298000, 36000⟩, ⟨-609411600, 32400⟩, ⟨-588848400, 36000⟩,
    ⟨-577962000, 32400⟩]

/-- The clocks of Asia/Beirut. -/
def beirut : Zone where
  name := "Asia/Beirut"
  firstOffset := 8520
  changes := [
    ⟨-2840149320, 7200⟩, ⟨-1570413600, 10800⟩, ⟨-1552186800, 7200⟩, ⟨-1538359200, 10800⟩,
    ⟨-1522551600, 7200⟩, ⟨-1507514400, 10800⟩, ⟨-1490583600, 7200⟩, ⟨-1473645600, 10800⟩,
    ⟨-1460948400, 7200⟩, ⟨-399866400, 10800⟩, ⟨-386650800, 7200⟩, ⟨-368330400, 10800⟩,
    ⟨-355114800, 7200⟩, ⟨-336794400, 10800⟩, ⟨-323578800, 7200⟩, ⟨-305172000, 10800⟩,
    ⟨-291956400, 7200⟩, ⟨-273636000, 10800⟩, ⟨-260420400, 7200⟩, ⟨78012000, 10800⟩,
    ⟨86734800, 7200⟩, ⟨105055200, 10800⟩, ⟨118270800, 7200⟩, ⟨136591200, 10800⟩,
    ⟨149806800, 7200⟩, ⟨168127200, 10800⟩, ⟨181342800, 7200⟩, ⟨199749600, 10800⟩,
    ⟨212965200, 7200⟩, ⟨231285600, 10800⟩, ⟨244501200, 7200⟩, ⟨262735200, 10800⟩,
    ⟨275950800, 7200⟩, ⟨452210400, 10800⟩, ⟨466722000, 7200⟩, ⟨483746400, 10800⟩,
    ⟨498258000, 7200⟩, ⟨515282400, 10800⟩, ⟨529794000, 7200⟩, ⟨546818400, 10800⟩,
    ⟨561330000, 7200⟩, ⟨581119200, 10800⟩, ⟨592952400, 7200⟩, ⟨610754400, 10800⟩,
    ⟨624488400, 7200⟩, ⟨641512800, 10800⟩, ⟨656024400, 7200⟩, ⟨673048800, 10800⟩,
    ⟨687560400, 7200⟩, ⟨704671200, 10800⟩, ⟨718146000, 7200⟩, ⟨733269600, 10800⟩,
    ⟨748990800, 7200⟩, ⟨764719200, 10800⟩, ⟨780440400, 7200⟩, ⟨796168800, 10800⟩,
    ⟨811890000, 7200⟩, ⟨828223200, 10800⟩, ⟨843944400, 7200⟩, ⟨859672800, 10800⟩,
    ⟨875394000, 7200⟩, ⟨891122400, 10800⟩, ⟨906843600, 7200⟩, ⟨922572000, 10800⟩,
    ⟨941317200, 7200⟩, ⟨954021600, 10800⟩, ⟨972766800, 7200⟩, ⟨985471200, 10800⟩,
    ⟨1004216400, 7200⟩, ⟨1017525600, 10800⟩, ⟨1035666000, 7200⟩, ⟨1048975200, 10800⟩,
    ⟨1067115600, 7200⟩, ⟨1080424800, 10800⟩, ⟨1099170000, 7200⟩, ⟨1111874400, 10800⟩,
    ⟨1130619600, 7200⟩, ⟨1143324000, 10800⟩, ⟨1162069200, 7200⟩, ⟨1174773600, 10800⟩,
    ⟨1193518800, 7200⟩, ⟨1206828000, 10800⟩, ⟨1224968400, 7200⟩, ⟨1238277600, 10800⟩,
    ⟨1256418000, 7200⟩, ⟨1269727200, 10800⟩, ⟨1288472400, 7200⟩, ⟨1301176800, 10800⟩,
    ⟨1319922000, 7200⟩, ⟨1332626400, 10800⟩, ⟨1351371600, 7200⟩, ⟨1364680800, 10800⟩,
    ⟨1382821200, 7200⟩, ⟨1396130400, 10800⟩, ⟨1414270800, 7200⟩, ⟨1427580000, 10800⟩,
    ⟨1445720400, 7200⟩, ⟨1459029600, 10800⟩, ⟨1477774800, 7200⟩, ⟨1490479200, 10800⟩,
    ⟨1509224400, 7200⟩, ⟨1521928800, 10800⟩, ⟨1540674000, 7200⟩, ⟨1553983200, 10800⟩,
    ⟨1572123600, 7200⟩, ⟨1585432800, 10800⟩, ⟨1603573200, 7200⟩, ⟨1616882400, 10800⟩,
    ⟨1635627600, 7200⟩, ⟨1648332000, 10800⟩, ⟨1667077200, 7200⟩, ⟨1679781600, 10800⟩,
    ⟨1698526800, 7200⟩, ⟨1711836000, 10800⟩, ⟨1729976400, 7200⟩, ⟨1743285600, 10800⟩,
    ⟨1761426000, 7200⟩, ⟨1774735200, 10800⟩, ⟨1792875600, 7200⟩, ⟨1806184800, 10800⟩,
    ⟨1824930000, 7200⟩, ⟨1837634400, 10800⟩, ⟨1856379600, 7200⟩, ⟨1869084000, 10800⟩,
    ⟨1887829200, 7200⟩, ⟨1901138400, 10800⟩, ⟨1919278800, 7200⟩, ⟨1932588000, 10800⟩,
    ⟨1950728400, 7200⟩, ⟨1964037600, 10800⟩, ⟨1982782800, 7200⟩, ⟨1995487200, 10800⟩,
    ⟨2014232400, 7200⟩, ⟨2026936800, 10800⟩, ⟨2045682000, 7200⟩, ⟨2058386400, 10800⟩,
    ⟨2077131600, 7200⟩, ⟨2090440800, 10800⟩, ⟨2108581200, 7200⟩, ⟨2121890400, 10800⟩,
    ⟨2140030800, 7200⟩, ⟨2153340000, 10800⟩, ⟨2172085200, 7200⟩, ⟨2184789600, 10800⟩,
    ⟨2203534800, 7200⟩, ⟨2216239200, 10800⟩, ⟨2234984400, 7200⟩, ⟨2248293600, 10800⟩,
    ⟨2266434000, 7200⟩, ⟨2279743200, 10800⟩, ⟨2297883600, 7200⟩, ⟨2311192800, 10800⟩,
    ⟨2329333200, 7200⟩, ⟨2342642400, 10800⟩, ⟨2361387600, 7200⟩, ⟨2374092000, 10800⟩,
    ⟨2392837200, 7200⟩, ⟨2405541600, 10800⟩, ⟨2424286800, 7200⟩, ⟨2437596000, 10800⟩,
    ⟨2455736400, 7200⟩, ⟨2469045600, 10800⟩, ⟨2487186000, 7200⟩, ⟨2500495200, 10800⟩,
    ⟨2519240400, 7200⟩, ⟨2531944800, 10800⟩, ⟨2550690000, 7200⟩, ⟨2563394400, 10800⟩,
    ⟨2582139600, 7200⟩, ⟨2595448800, 10800⟩, ⟨2613589200, 7200⟩, ⟨2626898400, 10800⟩,
    ⟨2645038800, 7200⟩, ⟨2658348000, 10800⟩, ⟨2676488400, 7200⟩, ⟨2689797600, 10800⟩,
    ⟨2708542800, 7200⟩, ⟨2721247200, 10800⟩, ⟨2739992400, 7200⟩, ⟨2752696800, 10800⟩,
    ⟨2771442000, 7200⟩, ⟨2784751200, 10800⟩, ⟨2802891600, 7200⟩, ⟨2816200800, 10800⟩,
    ⟨2834341200, 7200⟩, ⟨2847650400, 10800⟩, ⟨2866395600, 7200⟩, ⟨2879100000, 10800⟩,
    ⟨2897845200, 7200⟩, ⟨2910549600, 10800⟩, ⟨2929294800, 7200⟩, ⟨2941999200, 10800⟩,
    ⟨2960744400, 7200⟩, ⟨2974053600, 10800⟩, ⟨2992194000, 7200⟩, ⟨3005503200, 10800⟩,
    ⟨3023643600, 7200⟩, ⟨3036952800, 10800⟩, ⟨3055698000, 7200⟩, ⟨3068402400, 10800⟩,
    ⟨3087147600, 7200⟩, ⟨3099852000, 10800⟩, ⟨3118597200, 7200⟩, ⟨3131906400, 10800⟩,
    ⟨3150046800, 7200⟩, ⟨3163356000, 10800⟩, ⟨3181496400, 7200⟩, ⟨3194805600, 10800⟩,
    ⟨3212946000, 7200⟩, ⟨3226255200, 10800⟩, ⟨3245000400, 7200⟩, ⟨3257704800, 10800⟩,
    ⟨3276450000, 7200⟩, ⟨3289154400, 10800⟩, ⟨3307899600, 7200⟩, ⟨3321208800, 10800⟩,
    ⟨3339349200, 7200⟩, ⟨3352658400, 10800⟩, ⟨3370798800, 7200⟩, ⟨3384108000, 10800⟩,
    ⟨3402853200, 7200⟩, ⟨3415557600, 10800⟩, ⟨3434302800, 7200⟩, ⟨3447007200, 10800⟩,
    ⟨3465752400, 7200⟩, ⟨3479061600, 10800⟩, ⟨3497202000, 7200⟩, ⟨3510511200, 10800⟩,
    ⟨3528651600, 7200⟩, ⟨3541960800, 10800⟩, ⟨3560101200, 7200⟩, ⟨3573410400, 10800⟩,
    ⟨3592155600, 7200⟩, ⟨3604860000, 10800⟩, ⟨3623605200, 7200⟩, ⟨3636309600, 10800⟩,
    ⟨3655054800, 7200⟩, ⟨3668364000, 10800⟩, ⟨3686504400, 7200⟩, ⟨3699813600, 10800⟩,
    ⟨3717954000, 7200⟩, ⟨3731263200, 10800⟩, ⟨3750008400, 7200⟩, ⟨3762712800, 10800⟩,
    ⟨3781458000, 7200⟩, ⟨3794162400, 10800⟩, ⟨3812907600, 7200⟩, ⟨3825612000, 10800⟩,
    ⟨3844357200, 7200⟩, ⟨3857666400, 10800⟩, ⟨3875806800, 7200⟩, ⟨3889116000, 10800⟩,
    ⟨3907256400, 7200⟩, ⟨3920565600, 10800⟩, ⟨3939310800, 7200⟩, ⟨3952015200, 10800⟩,
    ⟨3970760400, 7200⟩, ⟨3983464800, 10800⟩, ⟨4002210000, 7200⟩, ⟨4015519200, 10800⟩,
    ⟨4033659600, 7200⟩, ⟨4046968800, 10800⟩, ⟨4065109200, 7200⟩, ⟨4078418400, 10800⟩,
    ⟨4096558800, 7200⟩]

end Almanac.Zone
