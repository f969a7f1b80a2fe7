import EventTime.Zone.Region

namespace EventTime.History

-- The time of Casablanca.
def casablanca : History :=
  let lmt : Reckoning := ⟨.ofSeconds (-1820), "LMT"⟩
  let plus00 : Reckoning := ⟨.ofSeconds 0, "+00"⟩
  let plus01 : Reckoning := ⟨.ofSeconds 3600, "+01"⟩
  ⟨lmt,
    [ ⟨-1773012580, plus00⟩, ⟨-956361600, plus01⟩, ⟨-950490000, plus00⟩, ⟨-942019200, plus01⟩,
      ⟨-761187600, plus00⟩, ⟨-617241600, plus01⟩, ⟨-605149200, plus00⟩, ⟨-81432000, plus01⟩,
      ⟨-71110800, plus00⟩, ⟨141264000, plus01⟩, ⟨147222000, plus00⟩, ⟨199756800, plus01⟩,
      ⟨207702000, plus00⟩, ⟨231292800, plus01⟩, ⟨244249200, plus00⟩, ⟨265507200, plus01⟩,
      ⟨271033200, plus00⟩, ⟨448243200, plus01⟩, ⟨504918000, plus00⟩, ⟨1212278400, plus01⟩,
      ⟨1220223600, plus00⟩, ⟨1243814400, plus01⟩, ⟨1250809200, plus00⟩, ⟨1272758400, plus01⟩,
      ⟨1281222000, plus00⟩, ⟨1301788800, plus01⟩, ⟨1312066800, plus00⟩, ⟨1335664800, plus01⟩,
      ⟨1342749600, plus00⟩, ⟨1345428000, plus01⟩, ⟨1348970400, plus00⟩, ⟨1367114400, plus01⟩,
      ⟨1373162400, plus00⟩, ⟨1376100000, plus01⟩, ⟨1382839200, plus00⟩, ⟨1396144800, plus01⟩,
      ⟨1403920800, plus00⟩, ⟨1406944800, plus01⟩, ⟨1414288800, plus00⟩, ⟨1427594400, plus01⟩,
      ⟨1434247200, plus00⟩, ⟨1437271200, plus01⟩, ⟨1445738400, plus00⟩, ⟨1459044000, plus01⟩,
      ⟨1465092000, plus00⟩, ⟨1468116000, plus01⟩, ⟨1477792800, plus00⟩, ⟨1490493600, plus01⟩,
      ⟨1495332000, plus00⟩, ⟨1498960800, plus01⟩, ⟨1509242400, plus00⟩, ⟨1521943200, plus01⟩,
      ⟨1526176800, plus00⟩, ⟨1529200800, plus01⟩, ⟨1540692000, plus01⟩, ⟨1557021600, plus00⟩,
      ⟨1560045600, plus01⟩, ⟨1587261600, plus00⟩, ⟨1590890400, plus01⟩, ⟨1618106400, plus00⟩,
      ⟨1621130400, plus01⟩, ⟨1648346400, plus00⟩, ⟨1651975200, plus01⟩, ⟨1679191200, plus00⟩,
      ⟨1682215200, plus01⟩, ⟨1710036000, plus00⟩, ⟨1713060000, plus01⟩, ⟨1740276000, plus00⟩,
      ⟨1743904800, plus01⟩, ⟨1771120800, plus00⟩, ⟨1774144800, plus01⟩, ⟨1801965600, plus00⟩,
      ⟨1804989600, plus01⟩, ⟨1832205600, plus00⟩, ⟨1835834400, plus01⟩, ⟨1863050400, plus00⟩,
      ⟨1866074400, plus01⟩, ⟨1893290400, plus00⟩, ⟨1896919200, plus01⟩, ⟨1924135200, plus00⟩,
      ⟨1927159200, plus01⟩, ⟨1954980000, plus00⟩, ⟨1958004000, plus01⟩, ⟨1985220000, plus00⟩,
      ⟨1988848800, plus01⟩, ⟨2016064800, plus00⟩, ⟨2019088800, plus01⟩, ⟨2046304800, plus00⟩,
      ⟨2049933600, plus01⟩, ⟨2077149600, plus00⟩, ⟨2080778400, plus01⟩, ⟨2107994400, plus00⟩,
      ⟨2111018400, plus01⟩, ⟨2138234400, plus00⟩, ⟨2141863200, plus01⟩, ⟨2169079200, plus00⟩,
      ⟨2172103200, plus01⟩, ⟨2199924000, plus00⟩, ⟨2202948000, plus01⟩, ⟨2230164000, plus00⟩,
      ⟨2233792800, plus01⟩, ⟨2261008800, plus00⟩, ⟨2264032800, plus01⟩, ⟨2291248800, plus00⟩,
      ⟨2294877600, plus01⟩, ⟨2322093600, plus00⟩, ⟨2325722400, plus01⟩, ⟨2352938400, plus00⟩,
      ⟨2355962400, plus01⟩, ⟨2383178400, plus00⟩, ⟨2386807200, plus01⟩, ⟨2414023200, plus00⟩,
      ⟨2417047200, plus01⟩, ⟨2444868000, plus00⟩, ⟨2447892000, plus01⟩, ⟨2475108000, plus00⟩,
      ⟨2478736800, plus01⟩, ⟨2505952800, plus00⟩, ⟨2508976800, plus01⟩, ⟨2536192800, plus00⟩,
      ⟨2539821600, plus01⟩, ⟨2567037600, plus00⟩, ⟨2570666400, plus01⟩, ⟨2597882400, plus00⟩,
      ⟨2600906400, plus01⟩, ⟨2628122400, plus00⟩, ⟨2631751200, plus01⟩, ⟨2658967200, plus00⟩,
      ⟨2661991200, plus01⟩, ⟨2689812000, plus00⟩, ⟨2692836000, plus01⟩, ⟨2720052000, plus00⟩,
      ⟨2723680800, plus01⟩, ⟨2750896800, plus00⟩, ⟨2753920800, plus01⟩, ⟨2781136800, plus00⟩,
      ⟨2784765600, plus01⟩, ⟨2811981600, plus00⟩, ⟨2815610400, plus01⟩, ⟨2842826400, plus00⟩,
      ⟨2845850400, plus01⟩, ⟨2873066400, plus00⟩, ⟨2876695200, plus01⟩, ⟨2903911200, plus00⟩,
      ⟨2906935200, plus01⟩, ⟨2934756000, plus00⟩, ⟨2937780000, plus01⟩, ⟨2964996000, plus00⟩,
      ⟨2968624800, plus01⟩, ⟨2995840800, plus00⟩, ⟨2998864800, plus01⟩, ⟨3026080800, plus00⟩,
      ⟨3029709600, plus01⟩, ⟨3056925600, plus00⟩, ⟨3060554400, plus01⟩, ⟨3087770400, plus00⟩,
      ⟨3090794400, plus01⟩, ⟨3118010400, plus00⟩, ⟨3121639200, plus01⟩, ⟨3148855200, plus00⟩,
      ⟨3151879200, plus01⟩, ⟨3179700000, plus00⟩, ⟨3182724000, plus01⟩, ⟨3209940000, plus00⟩,
      ⟨3213568800, plus01⟩, ⟨3240784800, plus00⟩, ⟨3243808800, plus01⟩, ⟨3271024800, plus00⟩,
      ⟨3274653600, plus01⟩, ⟨3301869600, plus00⟩, ⟨3305498400, plus01⟩, ⟨3332714400, plus00⟩,
      ⟨3335738400, plus01⟩, ⟨3362954400, plus00⟩, ⟨3366583200, plus01⟩, ⟨3393799200, plus00⟩,
      ⟨3396823200, plus01⟩, ⟨3424644000, plus00⟩, ⟨3427668000, plus01⟩, ⟨3454884000, plus00⟩,
      ⟨3458512800, plus01⟩, ⟨3485728800, plus00⟩, ⟨3488752800, plus01⟩, ⟨3515968800, plus00⟩,
      ⟨3519597600, plus01⟩, ⟨3546813600, plus00⟩, ⟨3549837600, plus01⟩, ⟨3577658400, plus00⟩,
      ⟨3580682400, plus01⟩, ⟨3607898400, plus00⟩, ⟨3611527200, plus01⟩, ⟨3638743200, plus00⟩,
      ⟨3641767200, plus01⟩, ⟨3669588000, plus00⟩, ⟨3672612000, plus01⟩, ⟨3699828000, plus00⟩,
      ⟨3703456800, plus01⟩ ]⟩

-- The time of Monrovia.
def monrovia : History :=
  let lmt : Reckoning := ⟨.ofSeconds (-2588), "LMT"⟩
  let mmt : Reckoning := ⟨.ofSeconds (-2588), "MMT"⟩
  let mmt2 : Reckoning := ⟨.ofSeconds (-2670), "MMT"⟩
  let gmt : Reckoning := ⟨.ofSeconds 0, "GMT"⟩
  ⟨lmt,
    [ ⟨-2776979812, mmt⟩, ⟨-1604359012, mmt2⟩, ⟨63593070, gmt⟩ ]⟩

-- The time of Abidjan.
def abidjan : History :=
  let lmt : Reckoning := ⟨.ofSeconds (-968), "LMT"⟩
  let gmt : Reckoning := ⟨.ofSeconds 0, "GMT"⟩
  ⟨lmt,
    [ ⟨-1830383032, gmt⟩ ]⟩

-- The time of Troll.
def troll : History :=
  let minus00 : Reckoning := ⟨.ofSeconds 0, "-00"⟩
  let plus00 : Reckoning := ⟨.ofSeconds 0, "+00"⟩
  let plus02 : Reckoning := ⟨.ofSeconds 7200, "+02"⟩
  ⟨minus00,
    [ ⟨1108166400, plus00⟩, ⟨1111885200, plus02⟩, ⟨1130634000, plus00⟩, ⟨1143334800, plus02⟩,
      ⟨1162083600, plus00⟩, ⟨1174784400, plus02⟩, ⟨1193533200, plus00⟩, ⟨1206838800, plus02⟩,
      ⟨1224982800, plus00⟩, ⟨1238288400, plus02⟩, ⟨1256432400, plus00⟩, ⟨1269738000, plus02⟩,
      ⟨1288486800, plus00⟩, ⟨1301187600, plus02⟩, ⟨1319936400, plus00⟩, ⟨1332637200, plus02⟩,
      ⟨1351386000, plus00⟩, ⟨1364691600, plus02⟩, ⟨1382835600, plus00⟩, ⟨1396141200, plus02⟩,
      ⟨1414285200, plus00⟩, ⟨1427590800, plus02⟩, ⟨1445734800, plus00⟩, ⟨1459040400, plus02⟩,
      ⟨1477789200, plus00⟩, ⟨1490490000, plus02⟩, ⟨1509238800, plus00⟩, ⟨1521939600, plus02⟩,
      ⟨1540688400, plus00⟩, ⟨1553994000, plus02⟩, ⟨1572138000, plus00⟩, ⟨1585443600, plus02⟩,
      ⟨1603587600, plus00⟩, ⟨1616893200, plus02⟩, ⟨1635642000, plus00⟩, ⟨1648342800, plus02⟩,
      ⟨1667091600, plus00⟩, ⟨1679792400, plus02⟩, ⟨1698541200, plus00⟩, ⟨1711846800, plus02⟩,
      ⟨1729990800, plus00⟩, ⟨1743296400, plus02⟩, ⟨1761440400, plus00⟩, ⟨1774746000, plus02⟩,
      ⟨1792890000, plus00⟩, ⟨1806195600, plus02⟩, ⟨1824944400, plus00⟩, ⟨1837645200, plus02⟩,
      ⟨1856394000, plus00⟩, ⟨1869094800, plus02⟩, ⟨1887843600, plus00⟩, ⟨1901149200, plus02⟩,
      ⟨1919293200, plus00⟩, ⟨1932598800, plus02⟩, ⟨1950742800, plus00⟩, ⟨1964048400, plus02⟩,
      ⟨1982797200, plus00⟩, ⟨1995498000, plus02⟩, ⟨2014246800, plus00⟩, ⟨2026947600, plus02⟩,
      ⟨2045696400, plus00⟩, ⟨2058397200, plus02⟩, ⟨2077146000, plus00⟩, ⟨2090451600, plus02⟩,
      ⟨2108595600, plus00⟩, ⟨2121901200, plus02⟩, ⟨2140045200, plus00⟩, ⟨2153350800, plus02⟩,
      ⟨2172099600, plus00⟩, ⟨2184800400, plus02⟩, ⟨2203549200, plus00⟩, ⟨2216250000, plus02⟩,
      ⟨2234998800, plus00⟩, ⟨2248304400, plus02⟩, ⟨2266448400, plus00⟩, ⟨2279754000, plus02⟩,
      ⟨2297898000, plus00⟩, ⟨2311203600, plus02⟩, ⟨2329347600, plus00⟩, ⟨2342653200, plus02⟩,
      ⟨2361402000, plus00⟩, ⟨2374102800, plus02⟩, ⟨2392851600, plus00⟩, ⟨2405552400, plus02⟩,
      ⟨2424301200, plus00⟩, ⟨2437606800, plus02⟩, ⟨2455750800, plus00⟩, ⟨2469056400, plus02⟩,
      ⟨2487200400, plus00⟩, ⟨2500506000, plus02⟩, ⟨2519254800, plus00⟩, ⟨2531955600, plus02⟩,
      ⟨2550704400, plus00⟩, ⟨2563405200, plus02⟩, ⟨2582154000, plus00⟩, ⟨2595459600, plus02⟩,
      ⟨2613603600, plus00⟩, ⟨2626909200, plus02⟩, ⟨2645053200, plus00⟩, ⟨2658358800, plus02⟩,
      ⟨2676502800, plus00⟩, ⟨2689808400, plus02⟩, ⟨2708557200, plus00⟩, ⟨2721258000, plus02⟩,
      ⟨2740006800, plus00⟩, ⟨2752707600, plus02⟩, ⟨2771456400, plus00⟩, ⟨2784762000, plus02⟩,
      ⟨2802906000, plus00⟩, ⟨2816211600, plus02⟩, ⟨2834355600, plus00⟩, ⟨2847661200, plus02⟩,
      ⟨2866410000, plus00⟩, ⟨2879110800, plus02⟩, ⟨2897859600, plus00⟩, ⟨2910560400, plus02⟩,
      ⟨2929309200, plus00⟩, ⟨2942010000, plus02⟩, ⟨2960758800, plus00⟩, ⟨2974064400, plus02⟩,
      ⟨2992208400, plus00⟩, ⟨3005514000, plus02⟩, ⟨3023658000, plus00⟩, ⟨3036963600, plus02⟩,
      ⟨3055712400, plus00⟩, ⟨3068413200, plus02⟩, ⟨3087162000, plus00⟩, ⟨3099862800, plus02⟩,
      ⟨3118611600, plus00⟩, ⟨3131917200, plus02⟩, ⟨3150061200, plus00⟩, ⟨3163366800, plus02⟩,
      ⟨3181510800, plus00⟩, ⟨3194816400, plus02⟩, ⟨3212960400, plus00⟩, ⟨3226266000, plus02⟩,
      ⟨3245014800, plus00⟩, ⟨3257715600, plus02⟩, ⟨3276464400, plus00⟩, ⟨3289165200, plus02⟩,
      ⟨3307914000, plus00⟩, ⟨3321219600, plus02⟩, ⟨3339363600, plus00⟩, ⟨3352669200, plus02⟩,
      ⟨3370813200, plus00⟩, ⟨3384118800, plus02⟩, ⟨3402867600, plus00⟩, ⟨3415568400, plus02⟩,
      ⟨3434317200, plus00⟩, ⟨3447018000, plus02⟩, ⟨3465766800, plus00⟩, ⟨3479072400, plus02⟩,
      ⟨3497216400, plus00⟩, ⟨3510522000, plus02⟩, ⟨3528666000, plus00⟩, ⟨3541971600, plus02⟩,
      ⟨3560115600, plus00⟩, ⟨3573421200, plus02⟩, ⟨3592170000, plus00⟩, ⟨3604870800, plus02⟩,
      ⟨3623619600, plus00⟩, ⟨3636320400, plus02⟩, ⟨3655069200, plus00⟩, ⟨3668374800, plus02⟩,
      ⟨3686518800, plus00⟩, ⟨3699824400, plus02⟩, ⟨3717968400, plus00⟩, ⟨3731274000, plus02⟩,
      ⟨3750022800, plus00⟩, ⟨3762723600, plus02⟩, ⟨3781472400, plus00⟩, ⟨3794173200, plus02⟩,
      ⟨3812922000, plus00⟩, ⟨3825622800, plus02⟩, ⟨3844371600, plus00⟩, ⟨3857677200, plus02⟩,
      ⟨3875821200, plus00⟩, ⟨3889126800, plus02⟩, ⟨3907270800, plus00⟩, ⟨3920576400, plus02⟩,
      ⟨3939325200, plus00⟩, ⟨3952026000, plus02⟩, ⟨3970774800, plus00⟩, ⟨3983475600, plus02⟩,
      ⟨4002224400, plus00⟩, ⟨4015530000, plus02⟩, ⟨4033674000, plus00⟩, ⟨4046979600, plus02⟩,
      ⟨4065123600, plus00⟩, ⟨4078429200, plus02⟩, ⟨4096573200, plus00⟩ ]⟩

end EventTime.History
