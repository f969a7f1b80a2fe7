import EventTime.Zone.Region

namespace EventTime.History

-- The time of Amsterdam.
def amsterdam : History :=
  let lmt : Reckoning := ⟨.ofSeconds 1050, "LMT"⟩
  let bmt : Reckoning := ⟨.ofSeconds 1050, "BMT"⟩
  let wet : Reckoning := ⟨.ofSeconds 0, "WET"⟩
  let cet : Reckoning := ⟨.ofSeconds 3600, "CET"⟩
  let cest : Reckoning := ⟨.ofSeconds 7200, "CEST"⟩
  let west : Reckoning := ⟨.ofSeconds 3600, "WEST"⟩
  ⟨lmt,
    [ ⟨-2840141850, bmt⟩, ⟨-2450995200, wet⟩, ⟨-1740355200, cet⟩, ⟨-1693702800, cest⟩,
      ⟨-1680483600, cet⟩, ⟨-1663455600, cest⟩, ⟨-1650150000, cet⟩, ⟨-1632006000, cest⟩,
      ⟨-1618700400, cet⟩, ⟨-1613826000, wet⟩, ⟨-1604278800, west⟩, ⟨-1585530000, wet⟩,
      ⟨-1574038800, west⟩, ⟨-1552266000, wet⟩, ⟨-1539997200, west⟩, ⟨-1520557200, wet⟩,
      ⟨-1507510800, west⟩, ⟨-1490576400, wet⟩, ⟨-1473642000, west⟩, ⟨-1459126800, wet⟩,
      ⟨-1444006800, west⟩, ⟨-1427677200, wet⟩, ⟨-1411952400, west⟩, ⟨-1396227600, wet⟩,
      ⟨-1379293200, west⟩, ⟨-1364778000, wet⟩, ⟨-1348448400, west⟩, ⟨-1333328400, wet⟩,
      ⟨-1316394000, west⟩, ⟨-1301263200, wet⟩, ⟨-1284328800, west⟩, ⟨-1269813600, wet⟩,
      ⟨-1253484000, west⟩, ⟨-1238364000, wet⟩, ⟨-1221429600, west⟩, ⟨-1206914400, wet⟩,
      ⟨-1191189600, west⟩, ⟨-1175464800, wet⟩, ⟨-1160344800, west⟩, ⟨-1143410400, wet⟩,
      ⟨-1127685600, west⟩, ⟨-1111960800, wet⟩, ⟨-1096840800, west⟩, ⟨-1080511200, wet⟩,
      ⟨-1063576800, west⟩, ⟨-1049061600, wet⟩, ⟨-1033336800, west⟩, ⟨-1017612000, wet⟩,
      ⟨-1002492000, west⟩, ⟨-986162400, wet⟩, ⟨-969228000, west⟩, ⟨-950479200, wet⟩,
      ⟨-942012000, west⟩, ⟨-934668000, cest⟩, ⟨-857257200, cet⟩, ⟨-844556400, cest⟩,
      ⟨-828226800, cet⟩, ⟨-812502000, cest⟩, ⟨-798073200, cet⟩, ⟨-781052400, cest⟩,
      ⟨-766623600, cet⟩, ⟨-745455600, cest⟩, ⟨-733273200, cet⟩, ⟨228877200, cest⟩,
      ⟨243997200, cet⟩, ⟨260326800, cest⟩, ⟨276051600, cet⟩, ⟨291776400, cest⟩,
      ⟨307501200, cet⟩, ⟨323830800, cest⟩, ⟨338950800, cet⟩, ⟨354675600, cest⟩,
      ⟨370400400, cet⟩, ⟨386125200, cest⟩, ⟨401850000, cet⟩, ⟨417574800, cest⟩,
      ⟨433299600, cet⟩, ⟨449024400, cest⟩, ⟨465354000, cet⟩, ⟨481078800, cest⟩,
      ⟨496803600, cet⟩, ⟨512528400, cest⟩, ⟨528253200, cet⟩, ⟨543978000, cest⟩,
      ⟨559702800, cet⟩, ⟨575427600, cest⟩, ⟨591152400, cet⟩, ⟨606877200, cest⟩,
      ⟨622602000, cet⟩, ⟨638326800, cest⟩, ⟨654656400, cet⟩, ⟨670381200, cest⟩,
      ⟨686106000, cet⟩, ⟨701830800, cest⟩, ⟨717555600, cet⟩, ⟨733280400, cest⟩,
      ⟨749005200, cet⟩, ⟨764730000, cest⟩, ⟨780454800, cet⟩, ⟨796179600, cest⟩,
      ⟨811904400, cet⟩, ⟨828234000, cest⟩, ⟨846378000, cet⟩, ⟨859683600, cest⟩,
      ⟨877827600, cet⟩, ⟨891133200, cest⟩, ⟨909277200, cet⟩, ⟨922582800, cest⟩,
      ⟨941331600, cet⟩, ⟨954032400, cest⟩, ⟨972781200, cet⟩, ⟨985482000, cest⟩,
      ⟨1004230800, cet⟩, ⟨1017536400, cest⟩, ⟨1035680400, cet⟩, ⟨1048986000, cest⟩,
      ⟨1067130000, cet⟩, ⟨1080435600, cest⟩, ⟨1099184400, cet⟩, ⟨1111885200, cest⟩,
      ⟨1130634000, cet⟩, ⟨1143334800, cest⟩, ⟨1162083600, cet⟩, ⟨1174784400, cest⟩,
      ⟨1193533200, cet⟩, ⟨1206838800, cest⟩, ⟨1224982800, cet⟩, ⟨1238288400, cest⟩,
      ⟨1256432400, cet⟩, ⟨1269738000, cest⟩, ⟨1288486800, cet⟩, ⟨1301187600, cest⟩,
      ⟨1319936400, cet⟩, ⟨1332637200, cest⟩, ⟨1351386000, cet⟩, ⟨1364691600, cest⟩,
      ⟨1382835600, cet⟩, ⟨1396141200, cest⟩, ⟨1414285200, cet⟩, ⟨1427590800, cest⟩,
      ⟨1445734800, cet⟩, ⟨1459040400, cest⟩, ⟨1477789200, cet⟩, ⟨1490490000, cest⟩,
      ⟨1509238800, cet⟩, ⟨1521939600, cest⟩, ⟨1540688400, cet⟩, ⟨1553994000, cest⟩,
      ⟨1572138000, cet⟩, ⟨1585443600, cest⟩, ⟨1603587600, cet⟩, ⟨1616893200, cest⟩,
      ⟨1635642000, cet⟩, ⟨1648342800, cest⟩, ⟨1667091600, cet⟩, ⟨1679792400, cest⟩,
      ⟨1698541200, cet⟩, ⟨1711846800, cest⟩, ⟨1729990800, cet⟩, ⟨1743296400, cest⟩,
      ⟨1761440400, cet⟩, ⟨1774746000, cest⟩, ⟨1792890000, cet⟩, ⟨1806195600, cest⟩,
      ⟨1824944400, cet⟩, ⟨1837645200, cest⟩, ⟨1856394000, cet⟩, ⟨1869094800, cest⟩,
      ⟨1887843600, cet⟩, ⟨1901149200, cest⟩, ⟨1919293200, cet⟩, ⟨1932598800, cest⟩,
      ⟨1950742800, cet⟩, ⟨1964048400, cest⟩, ⟨1982797200, cet⟩, ⟨1995498000, cest⟩,
      ⟨2014246800, cet⟩, ⟨2026947600, cest⟩, ⟨2045696400, cet⟩, ⟨2058397200, cest⟩,
      ⟨2077146000, cet⟩, ⟨2090451600, cest⟩, ⟨2108595600, cet⟩, ⟨2121901200, cest⟩,
      ⟨2140045200, cet⟩, ⟨2153350800, cest⟩, ⟨2172099600, cet⟩, ⟨2184800400, cest⟩,
      ⟨2203549200, cet⟩, ⟨2216250000, cest⟩, ⟨2234998800, cet⟩, ⟨2248304400, cest⟩,
      ⟨2266448400, cet⟩, ⟨2279754000, cest⟩, ⟨2297898000, cet⟩, ⟨2311203600, cest⟩,
      ⟨2329347600, cet⟩, ⟨2342653200, cest⟩, ⟨2361402000, cet⟩, ⟨2374102800, cest⟩,
      ⟨2392851600, cet⟩, ⟨2405552400, cest⟩, ⟨2424301200, cet⟩, ⟨2437606800, cest⟩,
      ⟨2455750800, cet⟩, ⟨2469056400, cest⟩, ⟨2487200400, cet⟩, ⟨2500506000, cest⟩,
      ⟨2519254800, cet⟩, ⟨2531955600, cest⟩, ⟨2550704400, cet⟩, ⟨2563405200, cest⟩,
      ⟨2582154000, cet⟩, ⟨2595459600, cest⟩, ⟨2613603600, cet⟩, ⟨2626909200, cest⟩,
      ⟨2645053200, cet⟩, ⟨2658358800, cest⟩, ⟨2676502800, cet⟩, ⟨2689808400, cest⟩,
      ⟨2708557200, cet⟩, ⟨2721258000, cest⟩, ⟨2740006800, cet⟩, ⟨2752707600, cest⟩,
      ⟨2771456400, cet⟩, ⟨2784762000, cest⟩, ⟨2802906000, cet⟩, ⟨2816211600, cest⟩,
      ⟨2834355600, cet⟩, ⟨2847661200, cest⟩, ⟨2866410000, cet⟩, ⟨2879110800, cest⟩,
      ⟨2897859600, cet⟩, ⟨2910560400, cest⟩, ⟨2929309200, cet⟩, ⟨2942010000, cest⟩,
      ⟨2960758800, cet⟩, ⟨2974064400, cest⟩, ⟨2992208400, cet⟩, ⟨3005514000, cest⟩,
      ⟨3023658000, cet⟩, ⟨3036963600, cest⟩, ⟨3055712400, cet⟩, ⟨3068413200, cest⟩,
      ⟨3087162000, cet⟩, ⟨3099862800, cest⟩, ⟨3118611600, cet⟩, ⟨3131917200, cest⟩,
      ⟨3150061200, cet⟩, ⟨3163366800, cest⟩, ⟨3181510800, cet⟩, ⟨3194816400, cest⟩,
      ⟨3212960400, cet⟩, ⟨3226266000, cest⟩, ⟨3245014800, cet⟩, ⟨3257715600, cest⟩,
      ⟨3276464400, cet⟩, ⟨3289165200, cest⟩, ⟨3307914000, cet⟩, ⟨3321219600, cest⟩,
      ⟨3339363600, cet⟩, ⟨3352669200, cest⟩, ⟨3370813200, cet⟩, ⟨3384118800, cest⟩,
      ⟨3402867600, cet⟩, ⟨3415568400, cest⟩, ⟨3434317200, cet⟩, ⟨3447018000, cest⟩,
      ⟨3465766800, cet⟩, ⟨3479072400, cest⟩, ⟨3497216400, cet⟩, ⟨3510522000, cest⟩,
      ⟨3528666000, cet⟩, ⟨3541971600, cest⟩, ⟨3560115600, cet⟩, ⟨3573421200, cest⟩,
      ⟨3592170000, cet⟩, ⟨3604870800, cest⟩, ⟨3623619600, cet⟩, ⟨3636320400, cest⟩,
      ⟨3655069200, cet⟩, ⟨3668374800, cest⟩, ⟨3686518800, cet⟩, ⟨3699824400, cest⟩,
      ⟨3717968400, cet⟩, ⟨3731274000, cest⟩, ⟨3750022800, cet⟩, ⟨3762723600, cest⟩,
      ⟨3781472400, cet⟩, ⟨3794173200, cest⟩, ⟨3812922000, cet⟩, ⟨3825622800, cest⟩,
      ⟨3844371600, cet⟩, ⟨3857677200, cest⟩, ⟨3875821200, cet⟩, ⟨3889126800, cest⟩,
      ⟨3907270800, cet⟩, ⟨3920576400, cest⟩, ⟨3939325200, cet⟩, ⟨3952026000, cest⟩,
      ⟨3970774800, cet⟩, ⟨3983475600, cest⟩, ⟨4002224400, cet⟩, ⟨4015530000, cest⟩,
      ⟨4033674000, cet⟩, ⟨4046979600, cest⟩, ⟨4065123600, cet⟩, ⟨4078429200, cest⟩,
      ⟨4096573200, cet⟩ ]⟩

-- The time of Berlin.
def berlin : History :=
  let lmt : Reckoning := ⟨.ofSeconds 3208, "LMT"⟩
  let cet : Reckoning := ⟨.ofSeconds 3600, "CET"⟩
  let cest : Reckoning := ⟨.ofSeconds 7200, "CEST"⟩
  let cemt : Reckoning := ⟨.ofSeconds 10800, "CEMT"⟩
  ⟨lmt,
    [ ⟨-2422054408, cet⟩, ⟨-1693706400, cest⟩, ⟨-1680483600, cet⟩, ⟨-1663455600, cest⟩,
      ⟨-1650150000, cet⟩, ⟨-1632006000, cest⟩, ⟨-1618700400, cet⟩, ⟨-938905200, cest⟩,
      ⟨-857257200, cet⟩, ⟨-844556400, cest⟩, ⟨-828226800, cet⟩, ⟨-812502000, cest⟩,
      ⟨-796777200, cet⟩, ⟨-781052400, cest⟩, ⟨-776563200, cemt⟩, ⟨-765936000, cest⟩,
      ⟨-761180400, cet⟩, ⟨-748479600, cest⟩, ⟨-733273200, cet⟩, ⟨-717631200, cest⟩,
      ⟨-714610800, cemt⟩, ⟨-710380800, cest⟩, ⟨-701910000, cet⟩, ⟨-684975600, cest⟩,
      ⟨-670460400, cet⟩, ⟨-654130800, cest⟩, ⟨-639010800, cet⟩, ⟨323830800, cest⟩,
      ⟨338950800, cet⟩, ⟨354675600, cest⟩, ⟨370400400, cet⟩, ⟨386125200, cest⟩,
      ⟨401850000, cet⟩, ⟨417574800, cest⟩, ⟨433299600, cet⟩, ⟨449024400, cest⟩,
      ⟨465354000, cet⟩, ⟨481078800, cest⟩, ⟨496803600, cet⟩, ⟨512528400, cest⟩,
      ⟨528253200, cet⟩, ⟨543978000, cest⟩, ⟨559702800, cet⟩, ⟨575427600, cest⟩,
      ⟨591152400, cet⟩, ⟨606877200, cest⟩, ⟨622602000, cet⟩, ⟨638326800, cest⟩,
      ⟨654656400, cet⟩, ⟨670381200, cest⟩, ⟨686106000, cet⟩, ⟨701830800, cest⟩,
      ⟨717555600, cet⟩, ⟨733280400, cest⟩, ⟨749005200, cet⟩, ⟨764730000, cest⟩,
      ⟨780454800, cet⟩, ⟨796179600, cest⟩, ⟨811904400, cet⟩, ⟨828234000, cest⟩,
      ⟨846378000, cet⟩, ⟨859683600, cest⟩, ⟨877827600, cet⟩, ⟨891133200, cest⟩,
      ⟨909277200, cet⟩, ⟨922582800, cest⟩, ⟨941331600, cet⟩, ⟨954032400, cest⟩,
      ⟨972781200, cet⟩, ⟨985482000, cest⟩, ⟨1004230800, cet⟩, ⟨1017536400, cest⟩,
      ⟨1035680400, cet⟩, ⟨1048986000, cest⟩, ⟨1067130000, cet⟩, ⟨1080435600, cest⟩,
      ⟨1099184400, cet⟩, ⟨1111885200, cest⟩, ⟨1130634000, cet⟩, ⟨1143334800, cest⟩,
      ⟨1162083600, cet⟩, ⟨1174784400, cest⟩, ⟨1193533200, cet⟩, ⟨1206838800, cest⟩,
      ⟨1224982800, cet⟩, ⟨1238288400, cest⟩, ⟨1256432400, cet⟩, ⟨1269738000, cest⟩,
      ⟨1288486800, cet⟩, ⟨1301187600, cest⟩, ⟨1319936400, cet⟩, ⟨1332637200, cest⟩,
      ⟨1351386000, cet⟩, ⟨1364691600, cest⟩, ⟨1382835600, cet⟩, ⟨1396141200, cest⟩,
      ⟨1414285200, cet⟩, ⟨1427590800, cest⟩, ⟨1445734800, cet⟩, ⟨1459040400, cest⟩,
      ⟨1477789200, cet⟩, ⟨1490490000, cest⟩, ⟨1509238800, cet⟩, ⟨1521939600, cest⟩,
      ⟨1540688400, cet⟩, ⟨1553994000, cest⟩, ⟨1572138000, cet⟩, ⟨1585443600, cest⟩,
      ⟨1603587600, cet⟩, ⟨1616893200, cest⟩, ⟨1635642000, cet⟩, ⟨1648342800, cest⟩,
      ⟨1667091600, cet⟩, ⟨1679792400, cest⟩, ⟨1698541200, cet⟩, ⟨1711846800, cest⟩,
      ⟨1729990800, cet⟩, ⟨1743296400, cest⟩, ⟨1761440400, cet⟩, ⟨1774746000, cest⟩,
      ⟨1792890000, cet⟩, ⟨1806195600, cest⟩, ⟨1824944400, cet⟩, ⟨1837645200, cest⟩,
      ⟨1856394000, cet⟩, ⟨1869094800, cest⟩, ⟨1887843600, cet⟩, ⟨1901149200, cest⟩,
      ⟨1919293200, cet⟩, ⟨1932598800, cest⟩, ⟨1950742800, cet⟩, ⟨1964048400, cest⟩,
      ⟨1982797200, cet⟩, ⟨1995498000, cest⟩, ⟨2014246800, cet⟩, ⟨2026947600, cest⟩,
      ⟨2045696400, cet⟩, ⟨2058397200, cest⟩, ⟨2077146000, cet⟩, ⟨2090451600, cest⟩,
      ⟨2108595600, cet⟩, ⟨2121901200, cest⟩, ⟨2140045200, cet⟩, ⟨2153350800, cest⟩,
      ⟨2172099600, cet⟩, ⟨2184800400, cest⟩, ⟨2203549200, cet⟩, ⟨2216250000, cest⟩,
      ⟨2234998800, cet⟩, ⟨2248304400, cest⟩, ⟨2266448400, cet⟩, ⟨2279754000, cest⟩,
      ⟨2297898000, cet⟩, ⟨2311203600, cest⟩, ⟨2329347600, cet⟩, ⟨2342653200, cest⟩,
      ⟨2361402000, cet⟩, ⟨2374102800, cest⟩, ⟨2392851600, cet⟩, ⟨2405552400, cest⟩,
      ⟨2424301200, cet⟩, ⟨2437606800, cest⟩, ⟨2455750800, cet⟩, ⟨2469056400, cest⟩,
      ⟨2487200400, cet⟩, ⟨2500506000, cest⟩, ⟨2519254800, cet⟩, ⟨2531955600, cest⟩,
      ⟨2550704400, cet⟩, ⟨2563405200, cest⟩, ⟨2582154000, cet⟩, ⟨2595459600, cest⟩,
      ⟨2613603600, cet⟩, ⟨2626909200, cest⟩, ⟨2645053200, cet⟩, ⟨2658358800, cest⟩,
      ⟨2676502800, cet⟩, ⟨2689808400, cest⟩, ⟨2708557200, cet⟩, ⟨2721258000, cest⟩,
      ⟨2740006800, cet⟩, ⟨2752707600, cest⟩, ⟨2771456400, cet⟩, ⟨2784762000, cest⟩,
      ⟨2802906000, cet⟩, ⟨2816211600, cest⟩, ⟨2834355600, cet⟩, ⟨2847661200, cest⟩,
      ⟨2866410000, cet⟩, ⟨2879110800, cest⟩, ⟨2897859600, cet⟩, ⟨2910560400, cest⟩,
      ⟨2929309200, cet⟩, ⟨2942010000, cest⟩, ⟨2960758800, cet⟩, ⟨2974064400, cest⟩,
      ⟨2992208400, cet⟩, ⟨3005514000, cest⟩, ⟨3023658000, cet⟩, ⟨3036963600, cest⟩,
      ⟨3055712400, cet⟩, ⟨3068413200, cest⟩, ⟨3087162000, cet⟩, ⟨3099862800, cest⟩,
      ⟨3118611600, cet⟩, ⟨3131917200, cest⟩, ⟨3150061200, cet⟩, ⟨3163366800, cest⟩,
      ⟨3181510800, cet⟩, ⟨3194816400, cest⟩, ⟨3212960400, cet⟩, ⟨3226266000, cest⟩,
      ⟨3245014800, cet⟩, ⟨3257715600, cest⟩, ⟨3276464400, cet⟩, ⟨3289165200, cest⟩,
      ⟨3307914000, cet⟩, ⟨3321219600, cest⟩, ⟨3339363600, cet⟩, ⟨3352669200, cest⟩,
      ⟨3370813200, cet⟩, ⟨3384118800, cest⟩, ⟨3402867600, cet⟩, ⟨3415568400, cest⟩,
      ⟨3434317200, cet⟩, ⟨3447018000, cest⟩, ⟨3465766800, cet⟩, ⟨3479072400, cest⟩,
      ⟨3497216400, cet⟩, ⟨3510522000, cest⟩, ⟨3528666000, cet⟩, ⟨3541971600, cest⟩,
      ⟨3560115600, cet⟩, ⟨3573421200, cest⟩, ⟨3592170000, cet⟩, ⟨3604870800, cest⟩,
      ⟨3623619600, cet⟩, ⟨3636320400, cest⟩, ⟨3655069200, cet⟩, ⟨3668374800, cest⟩,
      ⟨3686518800, cet⟩, ⟨3699824400, cest⟩, ⟨3717968400, cet⟩, ⟨3731274000, cest⟩,
      ⟨3750022800, cet⟩, ⟨3762723600, cest⟩, ⟨3781472400, cet⟩, ⟨3794173200, cest⟩,
      ⟨3812922000, cet⟩, ⟨3825622800, cest⟩, ⟨3844371600, cet⟩, ⟨3857677200, cest⟩,
      ⟨3875821200, cet⟩, ⟨3889126800, cest⟩, ⟨3907270800, cet⟩, ⟨3920576400, cest⟩,
      ⟨3939325200, cet⟩, ⟨3952026000, cest⟩, ⟨3970774800, cet⟩, ⟨3983475600, cest⟩,
      ⟨4002224400, cet⟩, ⟨4015530000, cest⟩, ⟨4033674000, cet⟩, ⟨4046979600, cest⟩,
      ⟨4065123600, cet⟩, ⟨4078429200, cest⟩, ⟨4096573200, cet⟩ ]⟩

-- The time of London.
def london : History :=
  let lmt : Reckoning := ⟨.ofSeconds (-75), "LMT"⟩
  let gmt : Reckoning := ⟨.ofSeconds 0, "GMT"⟩
  let bst : Reckoning := ⟨.ofSeconds 3600, "BST"⟩
  let bdst : Reckoning := ⟨.ofSeconds 7200, "BDST"⟩
  ⟨lmt,
    [ ⟨-3852662325, gmt⟩, ⟨-1691964000, bst⟩, ⟨-1680472800, gmt⟩, ⟨-1664143200, bst⟩,
      ⟨-1650146400, gmt⟩, ⟨-1633903200, bst⟩, ⟨-1617487200, gmt⟩, ⟨-1601848800, bst⟩,
      ⟨-1586037600, gmt⟩, ⟨-1570399200, bst⟩, ⟨-1552168800, gmt⟩, ⟨-1538344800, bst⟩,
      ⟨-1522533600, gmt⟩, ⟨-1507500000, bst⟩, ⟨-1490565600, gmt⟩, ⟨-1473631200, bst⟩,
      ⟨-1460930400, gmt⟩, ⟨-1442786400, bst⟩, ⟨-1428876000, gmt⟩, ⟨-1410732000, bst⟩,
      ⟨-1396216800, gmt⟩, ⟨-1379282400, bst⟩, ⟨-1364767200, gmt⟩, ⟨-1348437600, bst⟩,
      ⟨-1333317600, gmt⟩, ⟨-1315778400, bst⟩, ⟨-1301263200, gmt⟩, ⟨-1284328800, bst⟩,
      ⟨-1269813600, gmt⟩, ⟨-1253484000, bst⟩, ⟨-1238364000, gmt⟩, ⟨-1221429600, bst⟩,
      ⟨-1206914400, gmt⟩, ⟨-1189980000, bst⟩, ⟨-1175464800, gmt⟩, ⟨-1159135200, bst⟩,
      ⟨-1143410400, gmt⟩, ⟨-1126476000, bst⟩, ⟨-1111960800, gmt⟩, ⟨-1095631200, bst⟩,
      ⟨-1080511200, gmt⟩, ⟨-1063576800, bst⟩, ⟨-1049061600, gmt⟩, ⟨-1032127200, bst⟩,
      ⟨-1017612000, gmt⟩, ⟨-1001282400, bst⟩, ⟨-986162400, gmt⟩, ⟨-969228000, bst⟩,
      ⟨-950479200, gmt⟩, ⟨-942012000, bst⟩, ⟨-904518000, bdst⟩, ⟨-896050800, bst⟩,
      ⟨-875487600, bdst⟩, ⟨-864601200, bst⟩, ⟨-844038000, bdst⟩, ⟨-832546800, bst⟩,
      ⟨-812588400, bdst⟩, ⟨-798073200, bst⟩, ⟨-781052400, bdst⟩, ⟨-772066800, bst⟩,
      ⟨-764805600, gmt⟩, ⟨-748476000, bst⟩, ⟨-733356000, gmt⟩, ⟨-719445600, bst⟩,
      ⟨-717030000, bdst⟩, ⟨-706748400, bst⟩, ⟨-699487200, gmt⟩, ⟨-687996000, bst⟩,
      ⟨-668037600, gmt⟩, ⟨-654732000, bst⟩, ⟨-636588000, gmt⟩, ⟨-622072800, bst⟩,
      ⟨-605743200, gmt⟩, ⟨-590623200, bst⟩, ⟨-574293600, gmt⟩, ⟨-558568800, bst⟩,
      ⟨-542239200, gmt⟩, ⟨-527119200, bst⟩, ⟨-512604000, gmt⟩, ⟨-496274400, bst⟩,
      ⟨-481154400, gmt⟩, ⟨-464220000, bst⟩, ⟨-449704800, gmt⟩, ⟨-432165600, bst⟩,
      ⟨-417650400, gmt⟩, ⟨-401320800, bst⟩, ⟨-386200800, gmt⟩, ⟨-369266400, bst⟩,
      ⟨-354751200, gmt⟩, ⟨-337816800, bst⟩, ⟨-323301600, gmt⟩, ⟨-306972000, bst⟩,
      ⟨-291852000, gmt⟩, ⟨-276732000, bst⟩, ⟨-257983200, gmt⟩, ⟨-245282400, bst⟩,
      ⟨-226533600, gmt⟩, ⟨-213228000, bst⟩, ⟨-195084000, gmt⟩, ⟨-182383200, bst⟩,
      ⟨-163634400, gmt⟩, ⟨-150933600, bst⟩, ⟨-132184800, gmt⟩, ⟨-119484000, bst⟩,
      ⟨-100735200, gmt⟩, ⟨-88034400, bst⟩, ⟨-68680800, gmt⟩, ⟨-59004000, bst⟩, ⟨-37242000, bst⟩,
      ⟨57722400, gmt⟩, ⟨69818400, bst⟩, ⟨89172000, gmt⟩, ⟨101268000, bst⟩, ⟨120621600, gmt⟩,
      ⟨132717600, bst⟩, ⟨152071200, gmt⟩, ⟨164167200, bst⟩, ⟨183520800, gmt⟩, ⟨196221600, bst⟩,
      ⟨214970400, gmt⟩, ⟨227671200, bst⟩, ⟨246420000, gmt⟩, ⟨259120800, bst⟩, ⟨278474400, gmt⟩,
      ⟨290570400, bst⟩, ⟨309924000, gmt⟩, ⟨322020000, bst⟩, ⟨341373600, gmt⟩, ⟨354675600, bst⟩,
      ⟨372819600, gmt⟩, ⟨386125200, bst⟩, ⟨404269200, gmt⟩, ⟨417574800, bst⟩, ⟨435718800, gmt⟩,
      ⟨449024400, bst⟩, ⟨467773200, gmt⟩, ⟨481078800, bst⟩, ⟨499222800, gmt⟩, ⟨512528400, bst⟩,
      ⟨530672400, gmt⟩, ⟨543978000, bst⟩, ⟨562122000, gmt⟩, ⟨575427600, bst⟩, ⟨593571600, gmt⟩,
      ⟨606877200, bst⟩, ⟨625626000, gmt⟩, ⟨638326800, bst⟩, ⟨657075600, gmt⟩, ⟨670381200, bst⟩,
      ⟨688525200, gmt⟩, ⟨701830800, bst⟩, ⟨719974800, gmt⟩, ⟨733280400, bst⟩, ⟨751424400, gmt⟩,
      ⟨764730000, bst⟩, ⟨782874000, gmt⟩, ⟨796179600, bst⟩, ⟨814323600, gmt⟩, ⟨828234000, bst⟩,
      ⟨846378000, gmt⟩, ⟨859683600, bst⟩, ⟨877827600, gmt⟩, ⟨891133200, bst⟩, ⟨909277200, gmt⟩,
      ⟨922582800, bst⟩, ⟨941331600, gmt⟩, ⟨954032400, bst⟩, ⟨972781200, gmt⟩, ⟨985482000, bst⟩,
      ⟨1004230800, gmt⟩, ⟨1017536400, bst⟩, ⟨1035680400, gmt⟩, ⟨1048986000, bst⟩,
      ⟨1067130000, gmt⟩, ⟨1080435600, bst⟩, ⟨1099184400, gmt⟩, ⟨1111885200, bst⟩,
      ⟨1130634000, gmt⟩, ⟨1143334800, bst⟩, ⟨1162083600, gmt⟩, ⟨1174784400, bst⟩,
      ⟨1193533200, gmt⟩, ⟨1206838800, bst⟩, ⟨1224982800, gmt⟩, ⟨1238288400, bst⟩,
      ⟨1256432400, gmt⟩, ⟨1269738000, bst⟩, ⟨1288486800, gmt⟩, ⟨1301187600, bst⟩,
      ⟨1319936400, gmt⟩, ⟨1332637200, bst⟩, ⟨1351386000, gmt⟩, ⟨1364691600, bst⟩,
      ⟨1382835600, gmt⟩, ⟨1396141200, bst⟩, ⟨1414285200, gmt⟩, ⟨1427590800, bst⟩,
      ⟨1445734800, gmt⟩, ⟨1459040400, bst⟩, ⟨1477789200, gmt⟩, ⟨1490490000, bst⟩,
      ⟨1509238800, gmt⟩, ⟨1521939600, bst⟩, ⟨1540688400, gmt⟩, ⟨1553994000, bst⟩,
      ⟨1572138000, gmt⟩, ⟨1585443600, bst⟩, ⟨1603587600, gmt⟩, ⟨1616893200, bst⟩,
      ⟨1635642000, gmt⟩, ⟨1648342800, bst⟩, ⟨1667091600, gmt⟩, ⟨1679792400, bst⟩,
      ⟨1698541200, gmt⟩, ⟨1711846800, bst⟩, ⟨1729990800, gmt⟩, ⟨1743296400, bst⟩,
      ⟨1761440400, gmt⟩, ⟨1774746000, bst⟩, ⟨1792890000, gmt⟩, ⟨1806195600, bst⟩,
      ⟨1824944400, gmt⟩, ⟨1837645200, bst⟩, ⟨1856394000, gmt⟩, ⟨1869094800, bst⟩,
      ⟨1887843600, gmt⟩, ⟨1901149200, bst⟩, ⟨1919293200, gmt⟩, ⟨1932598800, bst⟩,
      ⟨1950742800, gmt⟩, ⟨1964048400, bst⟩, ⟨1982797200, gmt⟩, ⟨1995498000, bst⟩,
      ⟨2014246800, gmt⟩, ⟨2026947600, bst⟩, ⟨2045696400, gmt⟩, ⟨2058397200, bst⟩,
      ⟨2077146000, gmt⟩, ⟨2090451600, bst⟩, ⟨2108595600, gmt⟩, ⟨2121901200, bst⟩,
      ⟨2140045200, gmt⟩, ⟨2153350800, bst⟩, ⟨2172099600, gmt⟩, ⟨2184800400, bst⟩,
      ⟨2203549200, gmt⟩, ⟨2216250000, bst⟩, ⟨2234998800, gmt⟩, ⟨2248304400, bst⟩,
      ⟨2266448400, gmt⟩, ⟨2279754000, bst⟩, ⟨2297898000, gmt⟩, ⟨2311203600, bst⟩,
      ⟨2329347600, gmt⟩, ⟨2342653200, bst⟩, ⟨2361402000, gmt⟩, ⟨2374102800, bst⟩,
      ⟨2392851600, gmt⟩, ⟨2405552400, bst⟩, ⟨2424301200, gmt⟩, ⟨2437606800, bst⟩,
      ⟨2455750800, gmt⟩, ⟨2469056400, bst⟩, ⟨2487200400, gmt⟩, ⟨2500506000, bst⟩,
      ⟨2519254800, gmt⟩, ⟨2531955600, bst⟩, ⟨2550704400, gmt⟩, ⟨2563405200, bst⟩,
      ⟨2582154000, gmt⟩, ⟨2595459600, bst⟩, ⟨2613603600, gmt⟩, ⟨2626909200, bst⟩,
      ⟨2645053200, gmt⟩, ⟨2658358800, bst⟩, ⟨2676502800, gmt⟩, ⟨2689808400, bst⟩,
      ⟨2708557200, gmt⟩, ⟨2721258000, bst⟩, ⟨2740006800, gmt⟩, ⟨2752707600, bst⟩,
      ⟨2771456400, gmt⟩, ⟨2784762000, bst⟩, ⟨2802906000, gmt⟩, ⟨2816211600, bst⟩,
      ⟨2834355600, gmt⟩, ⟨2847661200, bst⟩, ⟨2866410000, gmt⟩, ⟨2879110800, bst⟩,
      ⟨2897859600, gmt⟩, ⟨2910560400, bst⟩, ⟨2929309200, gmt⟩, ⟨2942010000, bst⟩,
      ⟨2960758800, gmt⟩, ⟨2974064400, bst⟩, ⟨2992208400, gmt⟩, ⟨3005514000, bst⟩,
      ⟨3023658000, gmt⟩, ⟨3036963600, bst⟩, ⟨3055712400, gmt⟩, ⟨3068413200, bst⟩,
      ⟨3087162000, gmt⟩, ⟨3099862800, bst⟩, ⟨3118611600, gmt⟩, ⟨3131917200, bst⟩,
      ⟨3150061200, gmt⟩, ⟨3163366800, bst⟩, ⟨3181510800, gmt⟩, ⟨3194816400, bst⟩,
      ⟨3212960400, gmt⟩, ⟨3226266000, bst⟩, ⟨3245014800, gmt⟩, ⟨3257715600, bst⟩,
      ⟨3276464400, gmt⟩, ⟨3289165200, bst⟩, ⟨3307914000, gmt⟩, ⟨3321219600, bst⟩,
      ⟨3339363600, gmt⟩, ⟨3352669200, bst⟩, ⟨3370813200, gmt⟩, ⟨3384118800, bst⟩,
      ⟨3402867600, gmt⟩, ⟨3415568400, bst⟩, ⟨3434317200, gmt⟩, ⟨3447018000, bst⟩,
      ⟨3465766800, gmt⟩, ⟨3479072400, bst⟩, ⟨3497216400, gmt⟩, ⟨3510522000, bst⟩,
      ⟨3528666000, gmt⟩, ⟨3541971600, bst⟩, ⟨3560115600, gmt⟩, ⟨3573421200, bst⟩,
      ⟨3592170000, gmt⟩, ⟨3604870800, bst⟩, ⟨3623619600, gmt⟩, ⟨3636320400, bst⟩,
      ⟨3655069200, gmt⟩, ⟨3668374800, bst⟩, ⟨3686518800, gmt⟩, ⟨3699824400, bst⟩,
      ⟨3717968400, gmt⟩, ⟨3731274000, bst⟩, ⟨3750022800, gmt⟩, ⟨3762723600, bst⟩,
      ⟨3781472400, gmt⟩, ⟨3794173200, bst⟩, ⟨3812922000, gmt⟩, ⟨3825622800, bst⟩,
      ⟨3844371600, gmt⟩, ⟨3857677200, bst⟩, ⟨3875821200, gmt⟩, ⟨3889126800, bst⟩,
      ⟨3907270800, gmt⟩, ⟨3920576400, bst⟩, ⟨3939325200, gmt⟩, ⟨3952026000, bst⟩,
      ⟨3970774800, gmt⟩, ⟨3983475600, bst⟩, ⟨4002224400, gmt⟩, ⟨4015530000, bst⟩,
      ⟨4033674000, gmt⟩, ⟨4046979600, bst⟩, ⟨4065123600, gmt⟩, ⟨4078429200, bst⟩,
      ⟨4096573200, gmt⟩ ]⟩

-- The time of Dublin.
def dublin : History :=
  let lmt : Reckoning := ⟨.ofSeconds (-1521), "LMT"⟩
  let dmt : Reckoning := ⟨.ofSeconds (-1521), "DMT"⟩
  let ist : Reckoning := ⟨.ofSeconds 2079, "IST"⟩
  let gmt : Reckoning := ⟨.ofSeconds 0, "GMT"⟩
  let bst : Reckoning := ⟨.ofSeconds 3600, "BST"⟩
  let ist2 : Reckoning := ⟨.ofSeconds 3600, "IST"⟩
  ⟨lmt,
    [ ⟨-2821649679, dmt⟩, ⟨-1691962479, ist⟩, ⟨-1680471279, gmt⟩, ⟨-1664143200, bst⟩,
      ⟨-1650146400, gmt⟩, ⟨-1633903200, bst⟩, ⟨-1617487200, gmt⟩, ⟨-1601848800, bst⟩,
      ⟨-1586037600, gmt⟩, ⟨-1570399200, bst⟩, ⟨-1552168800, gmt⟩, ⟨-1538344800, bst⟩,
      ⟨-1522533600, gmt⟩, ⟨-1507500000, ist2⟩, ⟨-1490565600, gmt⟩, ⟨-1473631200, ist2⟩,
      ⟨-1460930400, gmt⟩, ⟨-1442786400, ist2⟩, ⟨-1428876000, gmt⟩, ⟨-1410732000, ist2⟩,
      ⟨-1396216800, gmt⟩, ⟨-1379282400, ist2⟩, ⟨-1364767200, gmt⟩, ⟨-1348437600, ist2⟩,
      ⟨-1333317600, gmt⟩, ⟨-1315778400, ist2⟩, ⟨-1301263200, gmt⟩, ⟨-1284328800, ist2⟩,
      ⟨-1269813600, gmt⟩, ⟨-1253484000, ist2⟩, ⟨-1238364000, gmt⟩, ⟨-1221429600, ist2⟩,
      ⟨-1206914400, gmt⟩, ⟨-1189980000, ist2⟩, ⟨-1175464800, gmt⟩, ⟨-1159135200, ist2⟩,
      ⟨-1143410400, gmt⟩, ⟨-1126476000, ist2⟩, ⟨-1111960800, gmt⟩, ⟨-1095631200, ist2⟩,
      ⟨-1080511200, gmt⟩, ⟨-1063576800, ist2⟩, ⟨-1049061600, gmt⟩, ⟨-1032127200, ist2⟩,
      ⟨-1017612000, gmt⟩, ⟨-1001282400, ist2⟩, ⟨-986162400, gmt⟩, ⟨-969228000, ist2⟩,
      ⟨-950479200, gmt⟩, ⟨-942012000, ist2⟩, ⟨-733356000, gmt⟩, ⟨-719445600, ist2⟩,
      ⟨-699487200, gmt⟩, ⟨-684972000, ist2⟩, ⟨-668037600, gmt⟩, ⟨-654732000, ist2⟩,
      ⟨-636588000, gmt⟩, ⟨-622072800, ist2⟩, ⟨-605743200, gmt⟩, ⟨-590623200, ist2⟩,
      ⟨-574293600, gmt⟩, ⟨-558568800, ist2⟩, ⟨-542239200, gmt⟩, ⟨-527119200, ist2⟩,
      ⟨-512604000, gmt⟩, ⟨-496274400, ist2⟩, ⟨-481154400, gmt⟩, ⟨-464220000, ist2⟩,
      ⟨-449704800, gmt⟩, ⟨-432165600, ist2⟩, ⟨-417650400, gmt⟩, ⟨-401320800, ist2⟩,
      ⟨-386200800, gmt⟩, ⟨-369266400, ist2⟩, ⟨-354751200, gmt⟩, ⟨-337816800, ist2⟩,
      ⟨-323301600, gmt⟩, ⟨-306972000, ist2⟩, ⟨-291852000, gmt⟩, ⟨-276732000, ist2⟩,
      ⟨-257983200, gmt⟩, ⟨-245282400, ist2⟩, ⟨-226533600, gmt⟩, ⟨-213228000, ist2⟩,
      ⟨-195084000, gmt⟩, ⟨-182383200, ist2⟩, ⟨-163634400, gmt⟩, ⟨-150933600, ist2⟩,
      ⟨-132184800, gmt⟩, ⟨-119484000, ist2⟩, ⟨-100735200, gmt⟩, ⟨-88034400, ist2⟩,
      ⟨-68680800, gmt⟩, ⟨-59004000, ist2⟩, ⟨-37242000, ist2⟩, ⟨57722400, gmt⟩, ⟨69818400, ist2⟩,
      ⟨89172000, gmt⟩, ⟨101268000, ist2⟩, ⟨120621600, gmt⟩, ⟨132717600, ist2⟩, ⟨152071200, gmt⟩,
      ⟨164167200, ist2⟩, ⟨183520800, gmt⟩, ⟨196221600, ist2⟩, ⟨214970400, gmt⟩,
      ⟨227671200, ist2⟩, ⟨246420000, gmt⟩, ⟨259120800, ist2⟩, ⟨278474400, gmt⟩,
      ⟨290570400, ist2⟩, ⟨309924000, gmt⟩, ⟨322020000, ist2⟩, ⟨341373600, gmt⟩,
      ⟨354675600, ist2⟩, ⟨372819600, gmt⟩, ⟨386125200, ist2⟩, ⟨404269200, gmt⟩,
      ⟨417574800, ist2⟩, ⟨435718800, gmt⟩, ⟨449024400, ist2⟩, ⟨467773200, gmt⟩,
      ⟨481078800, ist2⟩, ⟨499222800, gmt⟩, ⟨512528400, ist2⟩, ⟨530672400, gmt⟩,
      ⟨543978000, ist2⟩, ⟨562122000, gmt⟩, ⟨575427600, ist2⟩, ⟨593571600, gmt⟩,
      ⟨606877200, ist2⟩, ⟨625626000, gmt⟩, ⟨638326800, ist2⟩, ⟨657075600, gmt⟩,
      ⟨670381200, ist2⟩, ⟨688525200, gmt⟩, ⟨701830800, ist2⟩, ⟨719974800, gmt⟩,
      ⟨733280400, ist2⟩, ⟨751424400, gmt⟩, ⟨764730000, ist2⟩, ⟨782874000, gmt⟩,
      ⟨796179600, ist2⟩, ⟨814323600, gmt⟩, ⟨828234000, ist2⟩, ⟨846378000, gmt⟩,
      ⟨859683600, ist2⟩, ⟨877827600, gmt⟩, ⟨891133200, ist2⟩, ⟨909277200, gmt⟩,
      ⟨922582800, ist2⟩, ⟨941331600, gmt⟩, ⟨954032400, ist2⟩, ⟨972781200, gmt⟩,
      ⟨985482000, ist2⟩, ⟨1004230800, gmt⟩, ⟨1017536400, ist2⟩, ⟨1035680400, gmt⟩,
      ⟨1048986000, ist2⟩, ⟨1067130000, gmt⟩, ⟨1080435600, ist2⟩, ⟨1099184400, gmt⟩,
      ⟨1111885200, ist2⟩, ⟨1130634000, gmt⟩, ⟨1143334800, ist2⟩, ⟨1162083600, gmt⟩,
      ⟨1174784400, ist2⟩, ⟨1193533200, gmt⟩, ⟨1206838800, ist2⟩, ⟨1224982800, gmt⟩,
      ⟨1238288400, ist2⟩, ⟨1256432400, gmt⟩, ⟨1269738000, ist2⟩, ⟨1288486800, gmt⟩,
      ⟨1301187600, ist2⟩, ⟨1319936400, gmt⟩, ⟨1332637200, ist2⟩, ⟨1351386000, gmt⟩,
      ⟨1364691600, ist2⟩, ⟨1382835600, gmt⟩, ⟨1396141200, ist2⟩, ⟨1414285200, gmt⟩,
      ⟨1427590800, ist2⟩, ⟨1445734800, gmt⟩, ⟨1459040400, ist2⟩, ⟨1477789200, gmt⟩,
      ⟨1490490000, ist2⟩, ⟨1509238800, gmt⟩, ⟨1521939600, ist2⟩, ⟨1540688400, gmt⟩,
      ⟨1553994000, ist2⟩, ⟨1572138000, gmt⟩, ⟨1585443600, ist2⟩, ⟨1603587600, gmt⟩,
      ⟨1616893200, ist2⟩, ⟨1635642000, gmt⟩, ⟨1648342800, ist2⟩, ⟨1667091600, gmt⟩,
      ⟨1679792400, ist2⟩, ⟨1698541200, gmt⟩, ⟨1711846800, ist2⟩, ⟨1729990800, gmt⟩,
      ⟨1743296400, ist2⟩, ⟨1761440400, gmt⟩, ⟨1774746000, ist2⟩, ⟨1792890000, gmt⟩,
      ⟨1806195600, ist2⟩, ⟨1824944400, gmt⟩, ⟨1837645200, ist2⟩, ⟨1856394000, gmt⟩,
      ⟨1869094800, ist2⟩, ⟨1887843600, gmt⟩, ⟨1901149200, ist2⟩, ⟨1919293200, gmt⟩,
      ⟨1932598800, ist2⟩, ⟨1950742800, gmt⟩, ⟨1964048400, ist2⟩, ⟨1982797200, gmt⟩,
      ⟨1995498000, ist2⟩, ⟨2014246800, gmt⟩, ⟨2026947600, ist2⟩, ⟨2045696400, gmt⟩,
      ⟨2058397200, ist2⟩, ⟨2077146000, gmt⟩, ⟨2090451600, ist2⟩, ⟨2108595600, gmt⟩,
      ⟨2121901200, ist2⟩, ⟨2140045200, gmt⟩, ⟨2153350800, ist2⟩, ⟨2172099600, gmt⟩,
      ⟨2184800400, ist2⟩, ⟨2203549200, gmt⟩, ⟨2216250000, ist2⟩, ⟨2234998800, gmt⟩,
      ⟨2248304400, ist2⟩, ⟨2266448400, gmt⟩, ⟨2279754000, ist2⟩, ⟨2297898000, gmt⟩,
      ⟨2311203600, ist2⟩, ⟨2329347600, gmt⟩, ⟨2342653200, ist2⟩, ⟨2361402000, gmt⟩,
      ⟨2374102800, ist2⟩, ⟨2392851600, gmt⟩, ⟨2405552400, ist2⟩, ⟨2424301200, gmt⟩,
      ⟨2437606800, ist2⟩, ⟨2455750800, gmt⟩, ⟨2469056400, ist2⟩, ⟨2487200400, gmt⟩,
      ⟨2500506000, ist2⟩, ⟨2519254800, gmt⟩, ⟨2531955600, ist2⟩, ⟨2550704400, gmt⟩,
      ⟨2563405200, ist2⟩, ⟨2582154000, gmt⟩, ⟨2595459600, ist2⟩, ⟨2613603600, gmt⟩,
      ⟨2626909200, ist2⟩, ⟨2645053200, gmt⟩, ⟨2658358800, ist2⟩, ⟨2676502800, gmt⟩,
      ⟨2689808400, ist2⟩, ⟨2708557200, gmt⟩, ⟨2721258000, ist2⟩, ⟨2740006800, gmt⟩,
      ⟨2752707600, ist2⟩, ⟨2771456400, gmt⟩, ⟨2784762000, ist2⟩, ⟨2802906000, gmt⟩,
      ⟨2816211600, ist2⟩, ⟨2834355600, gmt⟩, ⟨2847661200, ist2⟩, ⟨2866410000, gmt⟩,
      ⟨2879110800, ist2⟩, ⟨2897859600, gmt⟩, ⟨2910560400, ist2⟩, ⟨2929309200, gmt⟩,
      ⟨2942010000, ist2⟩, ⟨2960758800, gmt⟩, ⟨2974064400, ist2⟩, ⟨2992208400, gmt⟩,
      ⟨3005514000, ist2⟩, ⟨3023658000, gmt⟩, ⟨3036963600, ist2⟩, ⟨3055712400, gmt⟩,
      ⟨3068413200, ist2⟩, ⟨3087162000, gmt⟩, ⟨3099862800, ist2⟩, ⟨3118611600, gmt⟩,
      ⟨3131917200, ist2⟩, ⟨3150061200, gmt⟩, ⟨3163366800, ist2⟩, ⟨3181510800, gmt⟩,
      ⟨3194816400, ist2⟩, ⟨3212960400, gmt⟩, ⟨3226266000, ist2⟩, ⟨3245014800, gmt⟩,
      ⟨3257715600, ist2⟩, ⟨3276464400, gmt⟩, ⟨3289165200, ist2⟩, ⟨3307914000, gmt⟩,
      ⟨3321219600, ist2⟩, ⟨3339363600, gmt⟩, ⟨3352669200, ist2⟩, ⟨3370813200, gmt⟩,
      ⟨3384118800, ist2⟩, ⟨3402867600, gmt⟩, ⟨3415568400, ist2⟩, ⟨3434317200, gmt⟩,
      ⟨3447018000, ist2⟩, ⟨3465766800, gmt⟩, ⟨3479072400, ist2⟩, ⟨3497216400, gmt⟩,
      ⟨3510522000, ist2⟩, ⟨3528666000, gmt⟩, ⟨3541971600, ist2⟩, ⟨3560115600, gmt⟩,
      ⟨3573421200, ist2⟩, ⟨3592170000, gmt⟩, ⟨3604870800, ist2⟩, ⟨3623619600, gmt⟩,
      ⟨3636320400, ist2⟩, ⟨3655069200, gmt⟩, ⟨3668374800, ist2⟩, ⟨3686518800, gmt⟩,
      ⟨3699824400, ist2⟩, ⟨3717968400, gmt⟩, ⟨3731274000, ist2⟩, ⟨3750022800, gmt⟩,
      ⟨3762723600, ist2⟩, ⟨3781472400, gmt⟩, ⟨3794173200, ist2⟩, ⟨3812922000, gmt⟩,
      ⟨3825622800, ist2⟩, ⟨3844371600, gmt⟩, ⟨3857677200, ist2⟩, ⟨3875821200, gmt⟩,
      ⟨3889126800, ist2⟩, ⟨3907270800, gmt⟩, ⟨3920576400, ist2⟩, ⟨3939325200, gmt⟩,
      ⟨3952026000, ist2⟩, ⟨3970774800, gmt⟩, ⟨3983475600, ist2⟩, ⟨4002224400, gmt⟩,
      ⟨4015530000, ist2⟩, ⟨4033674000, gmt⟩, ⟨4046979600, ist2⟩, ⟨4065123600, gmt⟩,
      ⟨4078429200, ist2⟩, ⟨4096573200, gmt⟩ ]⟩

-- The time of Paris.
def paris : History :=
  let lmt : Reckoning := ⟨.ofSeconds 561, "LMT"⟩
  let pmt : Reckoning := ⟨.ofSeconds 561, "PMT"⟩
  let wet : Reckoning := ⟨.ofSeconds 0, "WET"⟩
  let west : Reckoning := ⟨.ofSeconds 3600, "WEST"⟩
  let cest : Reckoning := ⟨.ofSeconds 7200, "CEST"⟩
  let cet : Reckoning := ⟨.ofSeconds 3600, "CET"⟩
  let wemt : Reckoning := ⟨.ofSeconds 7200, "WEMT"⟩
  ⟨lmt,
    [ ⟨-2486592561, pmt⟩, ⟨-1855958961, wet⟩, ⟨-1689814800, west⟩, ⟨-1680397200, wet⟩,
      ⟨-1665363600, west⟩, ⟨-1648342800, wet⟩, ⟨-1635123600, west⟩, ⟨-1616893200, wet⟩,
      ⟨-1604278800, west⟩, ⟨-1585443600, wet⟩, ⟨-1574038800, west⟩, ⟨-1552266000, wet⟩,
      ⟨-1539997200, west⟩, ⟨-1520557200, wet⟩, ⟨-1507510800, west⟩, ⟨-1490576400, wet⟩,
      ⟨-1470618000, west⟩, ⟨-1459126800, wet⟩, ⟨-1444006800, west⟩, ⟨-1427677200, wet⟩,
      ⟨-1411952400, west⟩, ⟨-1396227600, wet⟩, ⟨-1379293200, west⟩, ⟨-1364778000, wet⟩,
      ⟨-1348448400, west⟩, ⟨-1333328400, wet⟩, ⟨-1316394000, west⟩, ⟨-1301274000, wet⟩,
      ⟨-1284339600, west⟩, ⟨-1269824400, wet⟩, ⟨-1253494800, west⟩, ⟨-1238374800, wet⟩,
      ⟨-1221440400, west⟩, ⟨-1206925200, wet⟩, ⟨-1191200400, west⟩, ⟨-1175475600, wet⟩,
      ⟨-1160355600, west⟩, ⟨-1143421200, wet⟩, ⟨-1127696400, west⟩, ⟨-1111971600, wet⟩,
      ⟨-1096851600, west⟩, ⟨-1080522000, wet⟩, ⟨-1063587600, west⟩, ⟨-1049072400, wet⟩,
      ⟨-1033347600, west⟩, ⟨-1017622800, wet⟩, ⟨-1002502800, west⟩, ⟨-986173200, wet⟩,
      ⟨-969238800, west⟩, ⟨-950490000, wet⟩, ⟨-942012000, west⟩, ⟨-932436000, cest⟩,
      ⟨-857257200, cet⟩, ⟨-844556400, cest⟩, ⟨-828226800, cet⟩, ⟨-812502000, cest⟩,
      ⟨-800071200, wemt⟩, ⟨-796266000, west⟩, ⟨-781052400, wemt⟩, ⟨-766623600, cet⟩,
      ⟨196819200, cest⟩, ⟨212540400, cet⟩, ⟨228877200, cest⟩, ⟨243997200, cet⟩,
      ⟨260326800, cest⟩, ⟨276051600, cet⟩, ⟨291776400, cest⟩, ⟨307501200, cet⟩,
      ⟨323830800, cest⟩, ⟨338950800, cet⟩, ⟨354675600, cest⟩, ⟨370400400, cet⟩,
      ⟨386125200, cest⟩, ⟨401850000, cet⟩, ⟨417574800, cest⟩, ⟨433299600, cet⟩,
      ⟨449024400, cest⟩, ⟨465354000, cet⟩, ⟨481078800, cest⟩, ⟨496803600, cet⟩,
      ⟨512528400, cest⟩, ⟨528253200, cet⟩, ⟨543978000, cest⟩, ⟨559702800, cet⟩,
      ⟨575427600, cest⟩, ⟨591152400, cet⟩, ⟨606877200, cest⟩, ⟨622602000, cet⟩,
      ⟨638326800, cest⟩, ⟨654656400, cet⟩, ⟨670381200, cest⟩, ⟨686106000, cet⟩,
      ⟨701830800, cest⟩, ⟨717555600, cet⟩, ⟨733280400, cest⟩, ⟨749005200, cet⟩,
      ⟨764730000, cest⟩, ⟨780454800, cet⟩, ⟨796179600, cest⟩, ⟨811904400, cet⟩,
      ⟨828234000, cest⟩, ⟨846378000, cet⟩, ⟨859683600, cest⟩, ⟨877827600, cet⟩,
      ⟨891133200, cest⟩, ⟨909277200, cet⟩, ⟨922582800, cest⟩, ⟨941331600, cet⟩,
      ⟨954032400, cest⟩, ⟨972781200, cet⟩, ⟨985482000, cest⟩, ⟨1004230800, cet⟩,
      ⟨1017536400, cest⟩, ⟨1035680400, cet⟩, ⟨1048986000, cest⟩, ⟨1067130000, cet⟩,
      ⟨1080435600, cest⟩, ⟨1099184400, cet⟩, ⟨1111885200, cest⟩, ⟨1130634000, cet⟩,
      ⟨1143334800, cest⟩, ⟨1162083600, cet⟩, ⟨1174784400, cest⟩, ⟨1193533200, cet⟩,
      ⟨1206838800, cest⟩, ⟨1224982800, cet⟩, ⟨1238288400, cest⟩, ⟨1256432400, cet⟩,
      ⟨1269738000, cest⟩, ⟨1288486800, cet⟩, ⟨1301187600, cest⟩, ⟨1319936400, cet⟩,
      ⟨1332637200, cest⟩, ⟨1351386000, cet⟩, ⟨1364691600, cest⟩, ⟨1382835600, cet⟩,
      ⟨1396141200, cest⟩, ⟨1414285200, cet⟩, ⟨1427590800, cest⟩, ⟨1445734800, cet⟩,
      ⟨1459040400, cest⟩, ⟨1477789200, cet⟩, ⟨1490490000, cest⟩, ⟨1509238800, cet⟩,
      ⟨1521939600, cest⟩, ⟨1540688400, cet⟩, ⟨1553994000, cest⟩, ⟨1572138000, cet⟩,
      ⟨1585443600, cest⟩, ⟨1603587600, cet⟩, ⟨1616893200, cest⟩, ⟨1635642000, cet⟩,
      ⟨1648342800, cest⟩, ⟨1667091600, cet⟩, ⟨1679792400, cest⟩, ⟨1698541200, cet⟩,
      ⟨1711846800, cest⟩, ⟨1729990800, cet⟩, ⟨1743296400, cest⟩, ⟨1761440400, cet⟩,
      ⟨1774746000, cest⟩, ⟨1792890000, cet⟩, ⟨1806195600, cest⟩, ⟨1824944400, cet⟩,
      ⟨1837645200, cest⟩, ⟨1856394000, cet⟩, ⟨1869094800, cest⟩, ⟨1887843600, cet⟩,
      ⟨1901149200, cest⟩, ⟨1919293200, cet⟩, ⟨1932598800, cest⟩, ⟨1950742800, cet⟩,
      ⟨1964048400, cest⟩, ⟨1982797200, cet⟩, ⟨1995498000, cest⟩, ⟨2014246800, cet⟩,
      ⟨2026947600, cest⟩, ⟨2045696400, cet⟩, ⟨2058397200, cest⟩, ⟨2077146000, cet⟩,
      ⟨2090451600, cest⟩, ⟨2108595600, cet⟩, ⟨2121901200, cest⟩, ⟨2140045200, cet⟩,
      ⟨2153350800, cest⟩, ⟨2172099600, cet⟩, ⟨2184800400, cest⟩, ⟨2203549200, cet⟩,
      ⟨2216250000, cest⟩, ⟨2234998800, cet⟩, ⟨2248304400, cest⟩, ⟨2266448400, cet⟩,
      ⟨2279754000, cest⟩, ⟨2297898000, cet⟩, ⟨2311203600, cest⟩, ⟨2329347600, cet⟩,
      ⟨2342653200, cest⟩, ⟨2361402000, cet⟩, ⟨2374102800, cest⟩, ⟨2392851600, cet⟩,
      ⟨2405552400, cest⟩, ⟨2424301200, cet⟩, ⟨2437606800, cest⟩, ⟨2455750800, cet⟩,
      ⟨2469056400, cest⟩, ⟨2487200400, cet⟩, ⟨2500506000, cest⟩, ⟨2519254800, cet⟩,
      ⟨2531955600, cest⟩, ⟨2550704400, cet⟩, ⟨2563405200, cest⟩, ⟨2582154000, cet⟩,
      ⟨2595459600, cest⟩, ⟨2613603600, cet⟩, ⟨2626909200, cest⟩, ⟨2645053200, cet⟩,
      ⟨2658358800, cest⟩, ⟨2676502800, cet⟩, ⟨2689808400, cest⟩, ⟨2708557200, cet⟩,
      ⟨2721258000, cest⟩, ⟨2740006800, cet⟩, ⟨2752707600, cest⟩, ⟨2771456400, cet⟩,
      ⟨2784762000, cest⟩, ⟨2802906000, cet⟩, ⟨2816211600, cest⟩, ⟨2834355600, cet⟩,
      ⟨2847661200, cest⟩, ⟨2866410000, cet⟩, ⟨2879110800, cest⟩, ⟨2897859600, cet⟩,
      ⟨2910560400, cest⟩, ⟨2929309200, cet⟩, ⟨2942010000, cest⟩, ⟨2960758800, cet⟩,
      ⟨2974064400, cest⟩, ⟨2992208400, cet⟩, ⟨3005514000, cest⟩, ⟨3023658000, cet⟩,
      ⟨3036963600, cest⟩, ⟨3055712400, cet⟩, ⟨3068413200, cest⟩, ⟨3087162000, cet⟩,
      ⟨3099862800, cest⟩, ⟨3118611600, cet⟩, ⟨3131917200, cest⟩, ⟨3150061200, cet⟩,
      ⟨3163366800, cest⟩, ⟨3181510800, cet⟩, ⟨3194816400, cest⟩, ⟨3212960400, cet⟩,
      ⟨3226266000, cest⟩, ⟨3245014800, cet⟩, ⟨3257715600, cest⟩, ⟨3276464400, cet⟩,
      ⟨3289165200, cest⟩, ⟨3307914000, cet⟩, ⟨3321219600, cest⟩, ⟨3339363600, cet⟩,
      ⟨3352669200, cest⟩, ⟨3370813200, cet⟩, ⟨3384118800, cest⟩, ⟨3402867600, cet⟩,
      ⟨3415568400, cest⟩, ⟨3434317200, cet⟩, ⟨3447018000, cest⟩, ⟨3465766800, cet⟩,
      ⟨3479072400, cest⟩, ⟨3497216400, cet⟩, ⟨3510522000, cest⟩, ⟨3528666000, cet⟩,
      ⟨3541971600, cest⟩, ⟨3560115600, cet⟩, ⟨3573421200, cest⟩, ⟨3592170000, cet⟩,
      ⟨3604870800, cest⟩, ⟨3623619600, cet⟩, ⟨3636320400, cest⟩, ⟨3655069200, cet⟩,
      ⟨3668374800, cest⟩, ⟨3686518800, cet⟩, ⟨3699824400, cest⟩, ⟨3717968400, cet⟩,
      ⟨3731274000, cest⟩, ⟨3750022800, cet⟩, ⟨3762723600, cest⟩, ⟨3781472400, cet⟩,
      ⟨3794173200, cest⟩, ⟨3812922000, cet⟩, ⟨3825622800, cest⟩, ⟨3844371600, cet⟩,
      ⟨3857677200, cest⟩, ⟨3875821200, cet⟩, ⟨3889126800, cest⟩, ⟨3907270800, cet⟩,
      ⟨3920576400, cest⟩, ⟨3939325200, cet⟩, ⟨3952026000, cest⟩, ⟨3970774800, cet⟩,
      ⟨3983475600, cest⟩, ⟨4002224400, cet⟩, ⟨4015530000, cest⟩, ⟨4033674000, cet⟩,
      ⟨4046979600, cest⟩, ⟨4065123600, cet⟩, ⟨4078429200, cest⟩, ⟨4096573200, cet⟩ ]⟩

-- The time of Lisbon.
def lisbon : History :=
  let lmt : Reckoning := ⟨.ofSeconds (-2205), "LMT"⟩
  let wet : Reckoning := ⟨.ofSeconds 0, "WET"⟩
  let west : Reckoning := ⟨.ofSeconds 3600, "WEST"⟩
  let wemt : Reckoning := ⟨.ofSeconds 7200, "WEMT"⟩
  let cet : Reckoning := ⟨.ofSeconds 3600, "CET"⟩
  let cest : Reckoning := ⟨.ofSeconds 7200, "CEST"⟩
  ⟨lmt,
    [ ⟨-1830384000, wet⟩, ⟨-1689555600, west⟩, ⟨-1677801600, wet⟩, ⟨-1667433600, west⟩,
      ⟨-1647738000, wet⟩, ⟨-1635897600, west⟩, ⟨-1616202000, wet⟩, ⟨-1604361600, west⟩,
      ⟨-1584666000, wet⟩, ⟨-1572739200, west⟩, ⟨-1553043600, wet⟩, ⟨-1541203200, west⟩,
      ⟨-1521507600, wet⟩, ⟨-1442451600, west⟩, ⟨-1427677200, wet⟩, ⟨-1379293200, west⟩,
      ⟨-1364778000, wet⟩, ⟨-1348448400, west⟩, ⟨-1333328400, wet⟩, ⟨-1316394000, west⟩,
      ⟨-1301274000, wet⟩, ⟨-1284339600, west⟩, ⟨-1269824400, wet⟩, ⟨-1221440400, west⟩,
      ⟨-1206925200, wet⟩, ⟨-1191200400, west⟩, ⟨-1175475600, wet⟩, ⟨-1127696400, west⟩,
      ⟨-1111971600, wet⟩, ⟨-1096851600, west⟩, ⟨-1080522000, wet⟩, ⟨-1063587600, west⟩,
      ⟨-1049072400, wet⟩, ⟨-1033347600, west⟩, ⟨-1017622800, wet⟩, ⟨-1002502800, west⟩,
      ⟨-986173200, wet⟩, ⟨-969238800, west⟩, ⟨-950490000, wet⟩, ⟨-942022800, west⟩,
      ⟨-922496400, wet⟩, ⟨-906944400, west⟩, ⟨-891133200, wet⟩, ⟨-877309200, west⟩,
      ⟨-873684000, wemt⟩, ⟨-864007200, west⟩, ⟨-857955600, wet⟩, ⟨-845859600, west⟩,
      ⟨-842839200, wemt⟩, ⟨-831348000, west⟩, ⟨-825901200, wet⟩, ⟨-814410000, west⟩,
      ⟨-810784800, wemt⟩, ⟨-799898400, west⟩, ⟨-794451600, wet⟩, ⟨-782960400, west⟩,
      ⟨-779335200, wemt⟩, ⟨-768448800, west⟩, ⟨-763002000, wet⟩, ⟨-749091600, west⟩,
      ⟨-733366800, wet⟩, ⟨-717631200, west⟩, ⟨-701906400, wet⟩, ⟨-686181600, west⟩,
      ⟨-670456800, wet⟩, ⟨-654732000, west⟩, ⟨-639007200, wet⟩, ⟨-623282400, west⟩,
      ⟨-607557600, wet⟩, ⟨-591832800, west⟩, ⟨-575503200, wet⟩, ⟨-559778400, west⟩,
      ⟨-544053600, wet⟩, ⟨-528328800, west⟩, ⟨-512604000, wet⟩, ⟨-496879200, west⟩,
      ⟨-481154400, wet⟩, ⟨-465429600, west⟩, ⟨-449704800, wet⟩, ⟨-433980000, west⟩,
      ⟨-417650400, wet⟩, ⟨-401925600, west⟩, ⟨-386200800, wet⟩, ⟨-370476000, west⟩,
      ⟨-354751200, wet⟩, ⟨-339026400, west⟩, ⟨-323301600, wet⟩, ⟨-307576800, west⟩,
      ⟨-291852000, wet⟩, ⟨-276127200, west⟩, ⟨-260402400, wet⟩, ⟨-244677600, west⟩,
      ⟨-228348000, wet⟩, ⟨-212623200, west⟩, ⟨-196898400, wet⟩, ⟨-181173600, west⟩,
      ⟨-165448800, wet⟩, ⟨-149724000, west⟩, ⟨-133999200, wet⟩, ⟨-118274400, west⟩,
      ⟨-102549600, cet⟩, ⟨212544000, wet⟩, ⟨228268800, west⟩, ⟨243993600, wet⟩,
      ⟨260326800, west⟩, ⟨276051600, wet⟩, ⟨291776400, west⟩, ⟨307501200, wet⟩,
      ⟨323830800, west⟩, ⟨338950800, wet⟩, ⟨354672000, west⟩, ⟨370396800, wet⟩,
      ⟨386121600, west⟩, ⟨401846400, wet⟩, ⟨417571200, west⟩, ⟨433296000, wet⟩,
      ⟨449020800, west⟩, ⟨465350400, wet⟩, ⟨481075200, west⟩, ⟨496800000, wet⟩,
      ⟨512528400, west⟩, ⟨528253200, wet⟩, ⟨543978000, west⟩, ⟨559702800, wet⟩,
      ⟨575427600, west⟩, ⟨591152400, wet⟩, ⟨606877200, west⟩, ⟨622602000, wet⟩,
      ⟨638326800, west⟩, ⟨654656400, wet⟩, ⟨670381200, west⟩, ⟨686106000, wet⟩,
      ⟨701830800, west⟩, ⟨717555600, cet⟩, ⟨733280400, cest⟩, ⟨749005200, cet⟩,
      ⟨764730000, cest⟩, ⟨780454800, cet⟩, ⟨796179600, cest⟩, ⟨811904400, cet⟩,
      ⟨828234000, west⟩, ⟨846378000, wet⟩, ⟨859683600, west⟩, ⟨877827600, wet⟩,
      ⟨891133200, west⟩, ⟨909277200, wet⟩, ⟨922582800, west⟩, ⟨941331600, wet⟩,
      ⟨954032400, west⟩, ⟨972781200, wet⟩, ⟨985482000, west⟩, ⟨1004230800, wet⟩,
      ⟨1017536400, west⟩, ⟨1035680400, wet⟩, ⟨1048986000, west⟩, ⟨1067130000, wet⟩,
      ⟨1080435600, west⟩, ⟨1099184400, wet⟩, ⟨1111885200, west⟩, ⟨1130634000, wet⟩,
      ⟨1143334800, west⟩, ⟨1162083600, wet⟩, ⟨1174784400, west⟩, ⟨1193533200, wet⟩,
      ⟨1206838800, west⟩, ⟨1224982800, wet⟩, ⟨1238288400, west⟩, ⟨1256432400, wet⟩,
      ⟨1269738000, west⟩, ⟨1288486800, wet⟩, ⟨1301187600, west⟩, ⟨1319936400, wet⟩,
      ⟨1332637200, west⟩, ⟨1351386000, wet⟩, ⟨1364691600, west⟩, ⟨1382835600, wet⟩,
      ⟨1396141200, west⟩, ⟨1414285200, wet⟩, ⟨1427590800, west⟩, ⟨1445734800, wet⟩,
      ⟨1459040400, west⟩, ⟨1477789200, wet⟩, ⟨1490490000, west⟩, ⟨1509238800, wet⟩,
      ⟨1521939600, west⟩, ⟨1540688400, wet⟩, ⟨1553994000, west⟩, ⟨1572138000, wet⟩,
      ⟨1585443600, west⟩, ⟨1603587600, wet⟩, ⟨1616893200, west⟩, ⟨1635642000, wet⟩,
      ⟨1648342800, west⟩, ⟨1667091600, wet⟩, ⟨1679792400, west⟩, ⟨1698541200, wet⟩,
      ⟨1711846800, west⟩, ⟨1729990800, wet⟩, ⟨1743296400, west⟩, ⟨1761440400, wet⟩,
      ⟨1774746000, west⟩, ⟨1792890000, wet⟩, ⟨1806195600, west⟩, ⟨1824944400, wet⟩,
      ⟨1837645200, west⟩, ⟨1856394000, wet⟩, ⟨1869094800, west⟩, ⟨1887843600, wet⟩,
      ⟨1901149200, west⟩, ⟨1919293200, wet⟩, ⟨1932598800, west⟩, ⟨1950742800, wet⟩,
      ⟨1964048400, west⟩, ⟨1982797200, wet⟩, ⟨1995498000, west⟩, ⟨2014246800, wet⟩,
      ⟨2026947600, west⟩, ⟨2045696400, wet⟩, ⟨2058397200, west⟩, ⟨2077146000, wet⟩,
      ⟨2090451600, west⟩, ⟨2108595600, wet⟩, ⟨2121901200, west⟩, ⟨2140045200, wet⟩,
      ⟨2153350800, west⟩, ⟨2172099600, wet⟩, ⟨2184800400, west⟩, ⟨2203549200, wet⟩,
      ⟨2216250000, west⟩, ⟨2234998800, wet⟩, ⟨2248304400, west⟩, ⟨2266448400, wet⟩,
      ⟨2279754000, west⟩, ⟨2297898000, wet⟩, ⟨2311203600, west⟩, ⟨2329347600, wet⟩,
      ⟨2342653200, west⟩, ⟨2361402000, wet⟩, ⟨2374102800, west⟩, ⟨2392851600, wet⟩,
      ⟨2405552400, west⟩, ⟨2424301200, wet⟩, ⟨2437606800, west⟩, ⟨2455750800, wet⟩,
      ⟨2469056400, west⟩, ⟨2487200400, wet⟩, ⟨2500506000, west⟩, ⟨2519254800, wet⟩,
      ⟨2531955600, west⟩, ⟨2550704400, wet⟩, ⟨2563405200, west⟩, ⟨2582154000, wet⟩,
      ⟨2595459600, west⟩, ⟨2613603600, wet⟩, ⟨2626909200, west⟩, ⟨2645053200, wet⟩,
      ⟨2658358800, west⟩, ⟨2676502800, wet⟩, ⟨2689808400, west⟩, ⟨2708557200, wet⟩,
      ⟨2721258000, west⟩, ⟨2740006800, wet⟩, ⟨2752707600, west⟩, ⟨2771456400, wet⟩,
      ⟨2784762000, west⟩, ⟨2802906000, wet⟩, ⟨2816211600, west⟩, ⟨2834355600, wet⟩,
      ⟨2847661200, west⟩, ⟨2866410000, wet⟩, ⟨2879110800, west⟩, ⟨2897859600, wet⟩,
      ⟨2910560400, west⟩, ⟨2929309200, wet⟩, ⟨2942010000, west⟩, ⟨2960758800, wet⟩,
      ⟨2974064400, west⟩, ⟨2992208400, wet⟩, ⟨3005514000, west⟩, ⟨3023658000, wet⟩,
      ⟨3036963600, west⟩, ⟨3055712400, wet⟩, ⟨3068413200, west⟩, ⟨3087162000, wet⟩,
      ⟨3099862800, west⟩, ⟨3118611600, wet⟩, ⟨3131917200, west⟩, ⟨3150061200, wet⟩,
      ⟨3163366800, west⟩, ⟨3181510800, wet⟩, ⟨3194816400, west⟩, ⟨3212960400, wet⟩,
      ⟨3226266000, west⟩, ⟨3245014800, wet⟩, ⟨3257715600, west⟩, ⟨3276464400, wet⟩,
      ⟨3289165200, west⟩, ⟨3307914000, wet⟩, ⟨3321219600, west⟩, ⟨3339363600, wet⟩,
      ⟨3352669200, west⟩, ⟨3370813200, wet⟩, ⟨3384118800, west⟩, ⟨3402867600, wet⟩,
      ⟨3415568400, west⟩, ⟨3434317200, wet⟩, ⟨3447018000, west⟩, ⟨3465766800, wet⟩,
      ⟨3479072400, west⟩, ⟨3497216400, wet⟩, ⟨3510522000, west⟩, ⟨3528666000, wet⟩,
      ⟨3541971600, west⟩, ⟨3560115600, wet⟩, ⟨3573421200, west⟩, ⟨3592170000, wet⟩,
      ⟨3604870800, west⟩, ⟨3623619600, wet⟩, ⟨3636320400, west⟩, ⟨3655069200, wet⟩,
      ⟨3668374800, west⟩, ⟨3686518800, wet⟩, ⟨3699824400, west⟩, ⟨3717968400, wet⟩,
      ⟨3731274000, west⟩, ⟨3750022800, wet⟩, ⟨3762723600, west⟩, ⟨3781472400, wet⟩,
      ⟨3794173200, west⟩, ⟨3812922000, wet⟩, ⟨3825622800, west⟩, ⟨3844371600, wet⟩,
      ⟨3857677200, west⟩, ⟨3875821200, wet⟩, ⟨3889126800, west⟩, ⟨3907270800, wet⟩,
      ⟨3920576400, west⟩, ⟨3939325200, wet⟩, ⟨3952026000, west⟩, ⟨3970774800, wet⟩,
      ⟨3983475600, west⟩, ⟨4002224400, wet⟩, ⟨4015530000, west⟩, ⟨4033674000, wet⟩,
      ⟨4046979600, west⟩, ⟨4065123600, wet⟩, ⟨4078429200, west⟩, ⟨4096573200, wet⟩ ]⟩

-- The time of Moscow.
def moscow : History :=
  let lmt : Reckoning := ⟨.ofSeconds 9017, "LMT"⟩
  let mmt : Reckoning := ⟨.ofSeconds 9017, "MMT"⟩
  let mmt2 : Reckoning := ⟨.ofSeconds 9079, "MMT"⟩
  let mst : Reckoning := ⟨.ofSeconds 12679, "MST"⟩
  let mdst : Reckoning := ⟨.ofSeconds 16279, "MDST"⟩
  let msd : Reckoning := ⟨.ofSeconds 14400, "MSD"⟩
  let msk : Reckoning := ⟨.ofSeconds 10800, "MSK"⟩
  let plus05 : Reckoning := ⟨.ofSeconds 18000, "+05"⟩
  let eet : Reckoning := ⟨.ofSeconds 7200, "EET"⟩
  let eest : Reckoning := ⟨.ofSeconds 10800, "EEST"⟩
  let msk2 : Reckoning := ⟨.ofSeconds 14400, "MSK"⟩
  ⟨lmt,
    [ ⟨-2840149817, mmt⟩, ⟨-1688265017, mmt2⟩, ⟨-1656819079, mst⟩, ⟨-1641353479, mmt2⟩,
      ⟨-1627965079, mdst⟩, ⟨-1618716679, mst⟩, ⟨-1596429079, mdst⟩, ⟨-1593820800, msd⟩,
      ⟨-1589860800, msk⟩, ⟨-1542427200, msd⟩, ⟨-1539493200, plus05⟩, ⟨-1525323600, msd⟩,
      ⟨-1522728000, msk⟩, ⟨-1491188400, eet⟩, ⟨-1247536800, msk⟩, ⟨354920400, msd⟩,
      ⟨370728000, msk⟩, ⟨386456400, msd⟩, ⟨402264000, msk⟩, ⟨417992400, msd⟩, ⟨433800000, msk⟩,
      ⟨449614800, msd⟩, ⟨465346800, msk⟩, ⟨481071600, msd⟩, ⟨496796400, msk⟩, ⟨512521200, msd⟩,
      ⟨528246000, msk⟩, ⟨543970800, msd⟩, ⟨559695600, msk⟩, ⟨575420400, msd⟩, ⟨591145200, msk⟩,
      ⟨606870000, msd⟩, ⟨622594800, msk⟩, ⟨638319600, msd⟩, ⟨654649200, msk⟩, ⟨670374000, eest⟩,
      ⟨686102400, eet⟩, ⟨695779200, msk⟩, ⟨701823600, msd⟩, ⟨717548400, msk⟩, ⟨733273200, msd⟩,
      ⟨748998000, msk⟩, ⟨764722800, msd⟩, ⟨780447600, msk⟩, ⟨796172400, msd⟩, ⟨811897200, msk⟩,
      ⟨828226800, msd⟩, ⟨846370800, msk⟩, ⟨859676400, msd⟩, ⟨877820400, msk⟩, ⟨891126000, msd⟩,
      ⟨909270000, msk⟩, ⟨922575600, msd⟩, ⟨941324400, msk⟩, ⟨954025200, msd⟩, ⟨972774000, msk⟩,
      ⟨985474800, msd⟩, ⟨1004223600, msk⟩, ⟨1017529200, msd⟩, ⟨1035673200, msk⟩,
      ⟨1048978800, msd⟩, ⟨1067122800, msk⟩, ⟨1080428400, msd⟩, ⟨1099177200, msk⟩,
      ⟨1111878000, msd⟩, ⟨1130626800, msk⟩, ⟨1143327600, msd⟩, ⟨1162076400, msk⟩,
      ⟨1174777200, msd⟩, ⟨1193526000, msk⟩, ⟨1206831600, msd⟩, ⟨1224975600, msk⟩,
      ⟨1238281200, msd⟩, ⟨1256425200, msk⟩, ⟨1269730800, msd⟩, ⟨1288479600, msk⟩,
      ⟨1301180400, msk2⟩, ⟨1414274400, msk⟩ ]⟩

end EventTime.History
