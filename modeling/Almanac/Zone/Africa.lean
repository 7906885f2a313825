import Almanac.Zone

/-! # Clock changes in Africa

Each zone starts with its local mean time or its first standard time and lists every
change of its clocks, as the second of universal time and the offset from then on, in
seconds.  Yearly changes are listed through the year 2099.
-/
namespace Almanac.Zone

/-- The clocks of Africa/Casablanca. -/
def casablanca : Zone where
  name := "Africa/Casablanca"
  firstOffset := -1820
  changes := [
    ⟨-1773012580, 0⟩, ⟨-956361600, 3600⟩, ⟨-950490000, 0⟩, ⟨-942019200, 3600⟩, ⟨-761187600, 0⟩,
    ⟨-617241600, 3600⟩, ⟨-605149200, 0⟩, ⟨-81432000, 3600⟩, ⟨-71110800, 0⟩, ⟨141264000, 3600⟩,
    ⟨147222000, 0⟩, ⟨199756800, 3600⟩, ⟨207702000, 0⟩, ⟨231292800, 3600⟩, ⟨244249200, 0⟩,
    ⟨265507200, 3600⟩, ⟨271033200, 0⟩, ⟨448243200, 3600⟩, ⟨504918000, 0⟩, ⟨1212278400, 3600⟩,
    ⟨1220223600, 0⟩, ⟨1243814400, 3600⟩, ⟨1250809200, 0⟩, ⟨1272758400, 3600⟩, ⟨1281222000, 0⟩,
    ⟨1301788800, 3600⟩, ⟨1312066800, 0⟩, ⟨1335664800, 3600⟩, ⟨1342749600, 0⟩,
    ⟨1345428000, 3600⟩, ⟨1348970400, 0⟩, ⟨1367114400, 3600⟩, ⟨1373162400, 0⟩,
    ⟨1376100000, 3600⟩, ⟨1382839200, 0⟩, ⟨1396144800, 3600⟩, ⟨1403920800, 0⟩,
    ⟨1406944800, 3600⟩, ⟨1414288800, 0⟩, ⟨1427594400, 3600⟩, ⟨1434247200, 0⟩,
    ⟨1437271200, 3600⟩, ⟨1445738400, 0⟩, ⟨1459044000, 3600⟩, ⟨1465092000, 0⟩,
    ⟨1468116000, 3600⟩, ⟨1477792800, 0⟩, ⟨1490493600, 3600⟩, ⟨1495332000, 0⟩,
    ⟨1498960800, 3600⟩, ⟨1509242400, 0⟩, ⟨1521943200, 3600⟩, ⟨1526176800, 0⟩,
    ⟨1529200800, 3600⟩, ⟨1557021600, 0⟩, ⟨1560045600, 3600⟩, ⟨1587261600, 0⟩,
    ⟨1590890400, 3600⟩, ⟨1618106400, 0⟩, ⟨1621130400, 3600⟩, ⟨1648346400, 0⟩,
    ⟨1651975200, 3600⟩, ⟨1679191200, 0⟩, ⟨1682215200, 3600⟩, ⟨1710036000, 0⟩,
    ⟨1713060000, 3600⟩, ⟨1740276000, 0⟩, ⟨1743904800, 3600⟩, ⟨1771120800, 0⟩,
    ⟨1774144800, 3600⟩, ⟨1801965600, 0⟩, ⟨1804989600, 3600⟩, ⟨1832205600, 0⟩,
    ⟨1835834400, 3600⟩, ⟨1863050400, 0⟩, ⟨1866074400, 3600⟩, ⟨1893290400, 0⟩,
    ⟨1896919200, 3600⟩, ⟨1924135200, 0⟩, ⟨1927159200, 3600⟩, ⟨1954980000, 0⟩,
    ⟨1958004000, 3600⟩, ⟨1985220000, 0⟩, ⟨1988848800, 3600⟩, ⟨2016064800, 0⟩,
    ⟨2019088800, 3600⟩, ⟨2046304800, 0⟩, ⟨2049933600, 3600⟩, ⟨2077149600, 0⟩,
    ⟨2080778400, 3600⟩, ⟨2107994400, 0⟩, ⟨2111018400, 3600⟩, ⟨2138234400, 0⟩,
    ⟨2141863200, 3600⟩, ⟨2169079200, 0⟩, ⟨2172103200, 3600⟩, ⟨2199924000, 0⟩,
    ⟨2202948000, 3600⟩, ⟨2230164000, 0⟩, ⟨2233792800, 3600⟩, ⟨2261008800, 0⟩,
    ⟨2264032800, 3600⟩, ⟨2291248800, 0⟩, ⟨2294877600, 3600⟩, ⟨2322093600, 0⟩,
    ⟨2325722400, 3600⟩, ⟨2352938400, 0⟩, ⟨2355962400, 3600⟩, ⟨2383178400, 0⟩,
    ⟨2386807200, 3600⟩, ⟨2414023200, 0⟩, ⟨2417047200, 3600⟩, ⟨2444868000, 0⟩,
    ⟨2447892000, 3600⟩, ⟨2475108000, 0⟩, ⟨2478736800, 3600⟩, ⟨2505952800, 0⟩,
    ⟨2508976800, 3600⟩, ⟨2536192800, 0⟩, ⟨2539821600, 3600⟩, ⟨2567037600, 0⟩,
    ⟨2570666400, 3600⟩, ⟨2597882400, 0⟩, ⟨2600906400, 3600⟩, ⟨2628122400, 0⟩,
    ⟨2631751200, 3600⟩, ⟨2658967200, 0⟩, ⟨2661991200, 3600⟩, ⟨2689812000, 0⟩,
    ⟨2692836000, 3600⟩, ⟨2720052000, 0⟩, ⟨2723680800, 3600⟩, ⟨2750896800, 0⟩,
    ⟨2753920800, 3600⟩, ⟨2781136800, 0⟩, ⟨2784765600, 3600⟩, ⟨2811981600, 0⟩,
    ⟨2815610400, 3600⟩, ⟨2842826400, 0⟩, ⟨2845850400, 3600⟩, ⟨2873066400, 0⟩,
    ⟨2876695200, 3600⟩, ⟨2903911200, 0⟩, ⟨2906935200, 3600⟩, ⟨2934756000, 0⟩,
    ⟨2937780000, 3600⟩, ⟨2964996000, 0⟩, ⟨2968624800, 3600⟩, ⟨2995840800, 0⟩,
    ⟨2998864800, 3600⟩, ⟨3026080800, 0⟩, ⟨3029709600, 3600⟩, ⟨3056925600, 0⟩,
    ⟨3060554400, 3600⟩, ⟨3087770400, 0⟩, ⟨3090794400, 3600⟩, ⟨3118010400, 0⟩,
    ⟨3121639200, 3600⟩, ⟨3148855200, 0⟩, ⟨3151879200, 3600⟩, ⟨3179700000, 0⟩,
    ⟨3182724000, 3600⟩, ⟨3209940000, 0⟩, ⟨3213568800, 3600⟩, ⟨3240784800, 0⟩,
    ⟨3243808800, 3600⟩, ⟨3271024800, 0⟩, ⟨3274653600, 3600⟩, ⟨3301869600, 0⟩,
    ⟨3305498400, 3600⟩, ⟨3332714400, 0⟩, ⟨3335738400, 3600⟩, ⟨3362954400, 0⟩,
    ⟨3366583200, 3600⟩, ⟨3393799200, 0⟩, ⟨3396823200, 3600⟩, ⟨3424644000, 0⟩,
    ⟨3427668000, 3600⟩, ⟨3454884000, 0⟩, ⟨3458512800, 3600⟩, ⟨3485728800, 0⟩,
    ⟨3488752800, 3600⟩, ⟨3515968800, 0⟩, ⟨3519597600, 3600⟩, ⟨3546813600, 0⟩,
    ⟨3549837600, 3600⟩, ⟨3577658400, 0⟩, ⟨3580682400, 3600⟩, ⟨3607898400, 0⟩,
    ⟨3611527200, 3600⟩, ⟨3638743200, 0⟩, ⟨3641767200, 3600⟩, ⟨3669588000, 0⟩,
    ⟨3672612000, 3600⟩, ⟨3699828000, 0⟩, ⟨3703456800, 3600⟩]

/-- The clocks of Africa/Cairo. -/
def cairo : Zone where
  name := "Africa/Cairo"
  firstOffset := 7509
  changes := [
    ⟨-2185409109, 7200⟩, ⟨-929844000, 10800⟩, ⟨-923108400, 7200⟩, ⟨-906170400, 10800⟩,
    ⟨-892868400, 7200⟩, ⟨-875844000, 10800⟩, ⟨-857790000, 7200⟩, ⟨-844308000, 10800⟩,
    ⟨-825822000, 7200⟩, ⟨-812685600, 10800⟩, ⟨-794199600, 7200⟩, ⟨-779853600, 10800⟩,
    ⟨-762663600, 7200⟩, ⟨-399088800, 10800⟩, ⟨-386650800, 7200⟩, ⟨-368330400, 10800⟩,
    ⟨-355114800, 7200⟩, ⟨-336790800, 10800⟩, ⟨-323654400, 7200⟩, ⟨-305168400, 10800⟩,
    ⟨-292032000, 7200⟩, ⟨-273632400, 10800⟩, ⟨-260496000, 7200⟩, ⟨-242096400, 10800⟩,
    ⟨-228960000, 7200⟩, ⟨-210560400, 10800⟩, ⟨-197424000, 7200⟩, ⟨-178938000, 10800⟩,
    ⟨-165801600, 7200⟩, ⟨-147402000, 10800⟩, ⟨-134265600, 7200⟩, ⟨-115866000, 10800⟩,
    ⟨-102643200, 7200⟩, ⟨-84330000, 10800⟩, ⟨-71107200, 7200⟩, ⟨-52707600, 10800⟩,
    ⟨-39484800, 7200⟩, ⟨-21171600, 10800⟩, ⟨-7948800, 7200⟩, ⟨10364400, 10800⟩,
    ⟨23587200, 7200⟩, ⟨41900400, 10800⟩, ⟨55123200, 7200⟩, ⟨73522800, 10800⟩, ⟨86745600, 7200⟩,
    ⟨105058800, 10800⟩, ⟨118281600, 7200⟩, ⟨136594800, 10800⟩, ⟨149817600, 7200⟩,
    ⟨168130800, 10800⟩, ⟨181353600, 7200⟩, ⟨199753200, 10800⟩, ⟨212976000, 7200⟩,
    ⟨231289200, 10800⟩, ⟨244512000, 7200⟩, ⟨262825200, 10800⟩, ⟨276048000, 7200⟩,
    ⟨294361200, 10800⟩, ⟨307584000, 7200⟩, ⟨325983600, 10800⟩, ⟨339206400, 7200⟩,
    ⟨357519600, 10800⟩, ⟨370742400, 7200⟩, ⟨396399600, 10800⟩, ⟨402278400, 7200⟩,
    ⟨426812400, 10800⟩, ⟨433814400, 7200⟩, ⟨452214000, 10800⟩, ⟨465436800, 7200⟩,
    ⟨483750000, 10800⟩, ⟨496972800, 7200⟩, ⟨515286000, 10800⟩, ⟨528508800, 7200⟩,
    ⟨546822000, 10800⟩, ⟨560044800, 7200⟩, ⟨578444400, 10800⟩, ⟨591667200, 7200⟩,
    ⟨610412400, 10800⟩, ⟨623203200, 7200⟩, ⟨641516400, 10800⟩, ⟨654739200, 7200⟩,
    ⟨673052400, 10800⟩, ⟨686275200, 7200⟩, ⟨704674800, 10800⟩, ⟨717897600, 7200⟩,
    ⟨736210800, 10800⟩, ⟨749433600, 7200⟩, ⟨767746800, 10800⟩, ⟨780969600, 7200⟩,
    ⟨799020000, 10800⟩, ⟨812322000, 7200⟩, ⟨830469600, 10800⟩, ⟨843771600, 7200⟩,
    ⟨861919200, 10800⟩, ⟨875221200, 7200⟩, ⟨893368800, 10800⟩, ⟨906670800, 7200⟩,
    ⟨925423200, 10800⟩, ⟨938725200, 7200⟩, ⟨956872800, 10800⟩, ⟨970174800, 7200⟩,
    ⟨988322400, 10800⟩, ⟨1001624400, 7200⟩, ⟨1019772000, 10800⟩, ⟨1033074000, 7200⟩,
    ⟨1051221600, 10800⟩, ⟨1064523600, 7200⟩, ⟨1083276000, 10800⟩, ⟨1096578000, 7200⟩,
    ⟨1114725600, 10800⟩, ⟨1128027600, 7200⟩, ⟨1146175200, 10800⟩, ⟨1158872400, 7200⟩,
    ⟨1177624800, 10800⟩, ⟨1189112400, 7200⟩, ⟨1209074400, 10800⟩, ⟨1219957200, 7200⟩,
    ⟨1240524000, 10800⟩, ⟨1250802000, 7200⟩, ⟨1272578400, 10800⟩, ⟨1281474000, 7200⟩,
    ⟨1284069600, 10800⟩, ⟨1285880400, 7200⟩, ⟨1400191200, 10800⟩, ⟨1403816400, 7200⟩,
    ⟨1406844000, 10800⟩, ⟨1411678800, 7200⟩, ⟨1682632800, 10800⟩, ⟨1698354000, 7200⟩,
    ⟨1714082400, 10800⟩, ⟨1730408400, 7200⟩, ⟨1745532000, 10800⟩, ⟨1761858000, 7200⟩,
    ⟨1776981600, 10800⟩, ⟨1793307600, 7200⟩, ⟨1809036000, 10800⟩, ⟨1824757200, 7200⟩,
    ⟨1840485600, 10800⟩, ⟨1856206800, 7200⟩, ⟨1871935200, 10800⟩, ⟨1887656400, 7200⟩,
    ⟨1903384800, 10800⟩, ⟨1919710800, 7200⟩, ⟨1934834400, 10800⟩, ⟨1951160400, 7200⟩,
    ⟨1966888800, 10800⟩, ⟨1982610000, 7200⟩, ⟨1998338400, 10800⟩, ⟨2014059600, 7200⟩,
    ⟨2029788000, 10800⟩, ⟨2045509200, 7200⟩, ⟨2061237600, 10800⟩, ⟨2076958800, 7200⟩,
    ⟨2092687200, 10800⟩, ⟨2109013200, 7200⟩, ⟨2124136800, 10800⟩, ⟨2140462800, 7200⟩,
    ⟨2156191200, 10800⟩, ⟨2171912400, 7200⟩, ⟨2187640800, 10800⟩, ⟨2203362000, 7200⟩,
    ⟨2219090400, 10800⟩, ⟨2234811600, 7200⟩, ⟨2250540000, 10800⟩, ⟨2266866000, 7200⟩,
    ⟨2281989600, 10800⟩, ⟨2298315600, 7200⟩, ⟨2313439200, 10800⟩, ⟨2329765200, 7200⟩,
    ⟨2345493600, 10800⟩, ⟨2361214800, 7200⟩, ⟨2376943200, 10800⟩, ⟨2392664400, 7200⟩,
    ⟨2408392800, 10800⟩, ⟨2424114000, 7200⟩, ⟨2439842400, 10800⟩, ⟨2456168400, 7200⟩,
    ⟨2471292000, 10800⟩, ⟨2487618000, 7200⟩, ⟨2503346400, 10800⟩, ⟨2519067600, 7200⟩,
    ⟨2534796000, 10800⟩, ⟨2550517200, 7200⟩, ⟨2566245600, 10800⟩, ⟨2581966800, 7200⟩,
    ⟨2597695200, 10800⟩, ⟨2614021200, 7200⟩, ⟨2629144800, 10800⟩, ⟨2645470800, 7200⟩,
    ⟨2660594400, 10800⟩, ⟨2676920400, 7200⟩, ⟨2692648800, 10800⟩, ⟨2708370000, 7200⟩,
    ⟨2724098400, 10800⟩, ⟨2739819600, 7200⟩, ⟨2755548000, 10800⟩, ⟨2771269200, 7200⟩,
    ⟨2786997600, 10800⟩, ⟨2803323600, 7200⟩, ⟨2818447200, 10800⟩, ⟨2834773200, 7200⟩,
    ⟨2850501600, 10800⟩, ⟨2866222800, 7200⟩, ⟨2881951200, 10800⟩, ⟨2897672400, 7200⟩,
    ⟨2913400800, 10800⟩, ⟨2929122000, 7200⟩, ⟨2944850400, 10800⟩, ⟨2960571600, 7200⟩,
    ⟨2976300000, 10800⟩, ⟨2992626000, 7200⟩, ⟨3007749600, 10800⟩, ⟨3024075600, 7200⟩,
    ⟨3039804000, 10800⟩, ⟨3055525200, 7200⟩, ⟨3071253600, 10800⟩, ⟨3086974800, 7200⟩,
    ⟨3102703200, 10800⟩, ⟨3118424400, 7200⟩, ⟨3134152800, 10800⟩, ⟨3150478800, 7200⟩,
    ⟨3165602400, 10800⟩, ⟨3181928400, 7200⟩, ⟨3197052000, 10800⟩, ⟨3213378000, 7200⟩,
    ⟨3229106400, 10800⟩, ⟨3244827600, 7200⟩, ⟨3260556000, 10800⟩, ⟨3276277200, 7200⟩,
    ⟨3292005600, 10800⟩, ⟨3307726800, 7200⟩, ⟨3323455200, 10800⟩, ⟨3339781200, 7200⟩,
    ⟨3354904800, 10800⟩, ⟨3371230800, 7200⟩, ⟨3386959200, 10800⟩, ⟨3402680400, 7200⟩,
    ⟨3418408800, 10800⟩, ⟨3434130000, 7200⟩, ⟨3449858400, 10800⟩, ⟨3465579600, 7200⟩,
    ⟨3481308000, 10800⟩, ⟨3497634000, 7200⟩, ⟨3512757600, 10800⟩, ⟨3529083600, 7200⟩,
    ⟨3544207200, 10800⟩, ⟨3560533200, 7200⟩, ⟨3576261600, 10800⟩, ⟨3591982800, 7200⟩,
    ⟨3607711200, 10800⟩, ⟨3623432400, 7200⟩, ⟨3639160800, 10800⟩, ⟨3654882000, 7200⟩,
    ⟨3670610400, 10800⟩, ⟨3686936400, 7200⟩, ⟨3702060000, 10800⟩, ⟨3718386000, 7200⟩,
    ⟨3734114400, 10800⟩, ⟨3749835600, 7200⟩, ⟨3765564000, 10800⟩, ⟨3781285200, 7200⟩,
    ⟨3797013600, 10800⟩, ⟨3812734800, 7200⟩, ⟨3828463200, 10800⟩, ⟨3844184400, 7200⟩,
    ⟨3859912800, 10800⟩, ⟨3876238800, 7200⟩, ⟨3891362400, 10800⟩, ⟨3907688400, 7200⟩,
    ⟨3923416800, 10800⟩, ⟨3939138000, 7200⟩, ⟨3954866400, 10800⟩, ⟨3970587600, 7200⟩,
    ⟨3986316000, 10800⟩, ⟨4002037200, 7200⟩, ⟨4017765600, 10800⟩, ⟨4034091600, 7200⟩,
    ⟨4049215200, 10800⟩, ⟨4065541200, 7200⟩, ⟨4080664800, 10800⟩, ⟨4096990800, 7200⟩]

end Almanac.Zone
