import EventTime.Zone.Region

namespace EventTime.History

-- The time of Apia.
def apia : History :=
  let lmt : Reckoning := ⟨.ofSeconds 45184, "LMT"⟩
  let lmt2 : Reckoning := ⟨.ofSeconds (-41216), "LMT"⟩
  let minus1130 : Reckoning := ⟨.ofSeconds (-41400), "-1130"⟩
  let minus11 : Reckoning := ⟨.ofSeconds (-39600), "-11"⟩
  let minus10 : Reckoning := ⟨.ofSeconds (-36000), "-10"⟩
  let plus14 : Reckoning := ⟨.ofSeconds 50400, "+14"⟩
  let plus13 : Reckoning := ⟨.ofSeconds 46800, "+13"⟩
  ⟨lmt,
    [ ⟨-2445424384, lmt2⟩, ⟨-1861878784, minus1130⟩, ⟨-631110600, minus11⟩,
      ⟨1285498800, minus10⟩, ⟨1301752800, minus11⟩, ⟨1316872800, minus10⟩, ⟨1325239200, plus14⟩,
      ⟨1333202400, plus13⟩, ⟨1348927200, plus14⟩, ⟨1365256800, plus13⟩, ⟨1380376800, plus14⟩,
      ⟨1396706400, plus13⟩, ⟨1411826400, plus14⟩, ⟨1428156000, plus13⟩, ⟨1443276000, plus14⟩,
      ⟨1459605600, plus13⟩, ⟨1474725600, plus14⟩, ⟨1491055200, plus13⟩, ⟨1506175200, plus14⟩,
      ⟨1522504800, plus13⟩, ⟨1538229600, plus14⟩, ⟨1554559200, plus13⟩, ⟨1569679200, plus14⟩,
      ⟨1586008800, plus13⟩, ⟨1601128800, plus14⟩, ⟨1617458400, plus13⟩ ]⟩

-- The time of Kiritimati.
def kiritimati : History :=
  let lmt : Reckoning := ⟨.ofSeconds (-37760), "LMT"⟩
  let minus1040 : Reckoning := ⟨.ofSeconds (-38400), "-1040"⟩
  let minus10 : Reckoning := ⟨.ofSeconds (-36000), "-10"⟩
  let plus14 : Reckoning := ⟨.ofSeconds 50400, "+14"⟩
  ⟨lmt,
    [ ⟨-2177415040, minus1040⟩, ⟨307622400, minus10⟩, ⟨788868000, plus14⟩ ]⟩

-- The time of Chatham.
def chatham : History :=
  let lmt : Reckoning := ⟨.ofSeconds 44028, "LMT"⟩
  let plus1215 : Reckoning := ⟨.ofSeconds 44100, "+1215"⟩
  let plus1245 : Reckoning := ⟨.ofSeconds 45900, "+1245"⟩
  let plus1345 : Reckoning := ⟨.ofSeconds 49500, "+1345"⟩
  ⟨lmt,
    [ ⟨-3192437628, plus1215⟩, ⟨-757426500, plus1245⟩, ⟨152632800, plus1345⟩,
      ⟨162309600, plus1245⟩, ⟨183477600, plus1345⟩, ⟨194968800, plus1245⟩,
      ⟨215532000, plus1345⟩, ⟨226418400, plus1245⟩, ⟨246981600, plus1345⟩,
      ⟨257868000, plus1245⟩, ⟨278431200, plus1345⟩, ⟨289317600, plus1245⟩,
      ⟨309880800, plus1345⟩, ⟨320767200, plus1245⟩, ⟨341330400, plus1345⟩,
      ⟨352216800, plus1245⟩, ⟨372780000, plus1345⟩, ⟨384271200, plus1245⟩,
      ⟨404834400, plus1345⟩, ⟨415720800, plus1245⟩, ⟨436284000, plus1345⟩,
      ⟨447170400, plus1245⟩, ⟨467733600, plus1345⟩, ⟨478620000, plus1245⟩,
      ⟨499183200, plus1345⟩, ⟨510069600, plus1245⟩, ⟨530632800, plus1345⟩,
      ⟨541519200, plus1245⟩, ⟨562082400, plus1345⟩, ⟨573573600, plus1245⟩,
      ⟨594136800, plus1345⟩, ⟨605023200, plus1245⟩, ⟨623772000, plus1345⟩,
      ⟨637682400, plus1245⟩, ⟨655221600, plus1345⟩, ⟨669132000, plus1245⟩,
      ⟨686671200, plus1345⟩, ⟨700581600, plus1245⟩, ⟨718120800, plus1345⟩,
      ⟨732636000, plus1245⟩, ⟨749570400, plus1345⟩, ⟨764085600, plus1245⟩,
      ⟨781020000, plus1345⟩, ⟨795535200, plus1245⟩, ⟨812469600, plus1345⟩,
      ⟨826984800, plus1245⟩, ⟨844524000, plus1345⟩, ⟨858434400, plus1245⟩,
      ⟨875973600, plus1345⟩, ⟨889884000, plus1245⟩, ⟨907423200, plus1345⟩,
      ⟨921938400, plus1245⟩, ⟨938872800, plus1345⟩, ⟨953388000, plus1245⟩,
      ⟨970322400, plus1345⟩, ⟨984837600, plus1245⟩, ⟨1002376800, plus1345⟩,
      ⟨1016287200, plus1245⟩, ⟨1033826400, plus1345⟩, ⟨1047736800, plus1245⟩,
      ⟨1065276000, plus1345⟩, ⟨1079791200, plus1245⟩, ⟨1096725600, plus1345⟩,
      ⟨1111240800, plus1245⟩, ⟨1128175200, plus1345⟩, ⟨1142690400, plus1245⟩,
      ⟨1159624800, plus1345⟩, ⟨1174140000, plus1245⟩, ⟨1191074400, plus1345⟩,
      ⟨1207404000, plus1245⟩, ⟨1222524000, plus1345⟩, ⟨1238853600, plus1245⟩,
      ⟨1253973600, plus1345⟩, ⟨1270303200, plus1245⟩, ⟨1285423200, plus1345⟩,
      ⟨1301752800, plus1245⟩, ⟨1316872800, plus1345⟩, ⟨1333202400, plus1245⟩,
      ⟨1348927200, plus1345⟩, ⟨1365256800, plus1245⟩, ⟨1380376800, plus1345⟩,
      ⟨1396706400, plus1245⟩, ⟨1411826400, plus1345⟩, ⟨1428156000, plus1245⟩,
      ⟨1443276000, plus1345⟩, ⟨1459605600, plus1245⟩, ⟨1474725600, plus1345⟩,
      ⟨1491055200, plus1245⟩, ⟨1506175200, plus1345⟩, ⟨1522504800, plus1245⟩,
      ⟨1538229600, plus1345⟩, ⟨1554559200, plus1245⟩, ⟨1569679200, plus1345⟩,
      ⟨1586008800, plus1245⟩, ⟨1601128800, plus1345⟩, ⟨1617458400, plus1245⟩,
      ⟨1632578400, plus1345⟩, ⟨1648908000, plus1245⟩, ⟨1664028000, plus1345⟩,
      ⟨1680357600, plus1245⟩, ⟨1695477600, plus1345⟩, ⟨1712412000, plus1245⟩,
      ⟨1727532000, plus1345⟩, ⟨1743861600, plus1245⟩, ⟨1758981600, plus1345⟩,
      ⟨1775311200, plus1245⟩, ⟨1790431200, plus1345⟩, ⟨1806760800, plus1245⟩,
      ⟨1821880800, plus1345⟩, ⟨1838210400, plus1245⟩, ⟨1853330400, plus1345⟩,
      ⟨1869660000, plus1245⟩, ⟨1885384800, plus1345⟩, ⟨1901714400, plus1245⟩,
      ⟨1916834400, plus1345⟩, ⟨1933164000, plus1245⟩, ⟨1948284000, plus1345⟩,
      ⟨1964613600, plus1245⟩, ⟨1979733600, plus1345⟩, ⟨1996063200, plus1245⟩,
      ⟨2011183200, plus1345⟩, ⟨2027512800, plus1245⟩, ⟨2042632800, plus1345⟩,
      ⟨2058962400, plus1245⟩, ⟨2074687200, plus1345⟩, ⟨2091016800, plus1245⟩,
      ⟨2106136800, plus1345⟩, ⟨2122466400, plus1245⟩, ⟨2137586400, plus1345⟩,
      ⟨2153916000, plus1245⟩, ⟨2169036000, plus1345⟩, ⟨2185365600, plus1245⟩,
      ⟨2200485600, plus1345⟩, ⟨2216815200, plus1245⟩, ⟨2232540000, plus1345⟩,
      ⟨2248869600, plus1245⟩, ⟨2263989600, plus1345⟩, ⟨2280319200, plus1245⟩,
      ⟨2295439200, plus1345⟩, ⟨2311768800, plus1245⟩, ⟨2326888800, plus1345⟩,
      ⟨2343218400, plus1245⟩, ⟨2358338400, plus1345⟩, ⟨2374668000, plus1245⟩,
      ⟨2389788000, plus1345⟩, ⟨2406117600, plus1245⟩, ⟨2421842400, plus1345⟩,
      ⟨2438172000, plus1245⟩, ⟨2453292000, plus1345⟩, ⟨2469621600, plus1245⟩,
      ⟨2484741600, plus1345⟩, ⟨2501071200, plus1245⟩, ⟨2516191200, plus1345⟩,
      ⟨2532520800, plus1245⟩, ⟨2547640800, plus1345⟩, ⟨2563970400, plus1245⟩,
      ⟨2579090400, plus1345⟩, ⟨2596024800, plus1245⟩, ⟨2611144800, plus1345⟩,
      ⟨2627474400, plus1245⟩, ⟨2642594400, plus1345⟩, ⟨2658924000, plus1245⟩,
      ⟨2674044000, plus1345⟩, ⟨2690373600, plus1245⟩, ⟨2705493600, plus1345⟩,
      ⟨2721823200, plus1245⟩, ⟨2736943200, plus1345⟩, ⟨2753272800, plus1245⟩,
      ⟨2768997600, plus1345⟩, ⟨2785327200, plus1245⟩, ⟨2800447200, plus1345⟩,
      ⟨2816776800, plus1245⟩, ⟨2831896800, plus1345⟩, ⟨2848226400, plus1245⟩,
      ⟨2863346400, plus1345⟩, ⟨2879676000, plus1245⟩, ⟨2894796000, plus1345⟩,
      ⟨2911125600, plus1245⟩, ⟨2926245600, plus1345⟩, ⟨2942575200, plus1245⟩,
      ⟨2958300000, plus1345⟩, ⟨2974629600, plus1245⟩, ⟨2989749600, plus1345⟩,
      ⟨3006079200, plus1245⟩, ⟨3021199200, plus1345⟩, ⟨3037528800, plus1245⟩,
      ⟨3052648800, plus1345⟩, ⟨3068978400, plus1245⟩, ⟨3084098400, plus1345⟩,
      ⟨3100428000, plus1245⟩, ⟨3116152800, plus1345⟩, ⟨3132482400, plus1245⟩,
      ⟨3147602400, plus1345⟩, ⟨3163932000, plus1245⟩, ⟨3179052000, plus1345⟩,
      ⟨3195381600, plus1245⟩, ⟨3210501600, plus1345⟩, ⟨3226831200, plus1245⟩,
      ⟨3241951200, plus1345⟩, ⟨3258280800, plus1245⟩, ⟨3273400800, plus1345⟩,
      ⟨3289730400, plus1245⟩, ⟨3305455200, plus1345⟩, ⟨3321784800, plus1245⟩,
      ⟨3336904800, plus1345⟩, ⟨3353234400, plus1245⟩, ⟨3368354400, plus1345⟩,
      ⟨3384684000, plus1245⟩, ⟨3399804000, plus1345⟩, ⟨3416133600, plus1245⟩,
      ⟨3431253600, plus1345⟩, ⟨3447583200, plus1245⟩, ⟨3462703200, plus1345⟩,
      ⟨3479637600, plus1245⟩, ⟨3494757600, plus1345⟩, ⟨3511087200, plus1245⟩,
      ⟨3526207200, plus1345⟩, ⟨3542536800, plus1245⟩, ⟨3557656800, plus1345⟩,
      ⟨3573986400, plus1245⟩, ⟨3589106400, plus1345⟩, ⟨3605436000, plus1245⟩,
      ⟨3620556000, plus1345⟩, ⟨3636885600, plus1245⟩, ⟨3652610400, plus1345⟩,
      ⟨3668940000, plus1245⟩, ⟨3684060000, plus1345⟩, ⟨3700389600, plus1245⟩,
      ⟨3715509600, plus1345⟩, ⟨3731839200, plus1245⟩, ⟨3746959200, plus1345⟩,
      ⟨3763288800, plus1245⟩, ⟨3778408800, plus1345⟩, ⟨3794738400, plus1245⟩,
      ⟨3809858400, plus1345⟩, ⟨3826188000, plus1245⟩, ⟨3841912800, plus1345⟩,
      ⟨3858242400, plus1245⟩, ⟨3873362400, plus1345⟩, ⟨3889692000, plus1245⟩,
      ⟨3904812000, plus1345⟩, ⟨3921141600, plus1245⟩, ⟨3936261600, plus1345⟩,
      ⟨3952591200, plus1245⟩, ⟨3967711200, plus1345⟩, ⟨3984040800, plus1245⟩,
      ⟨3999765600, plus1345⟩, ⟨4016095200, plus1245⟩, ⟨4031215200, plus1345⟩,
      ⟨4047544800, plus1245⟩, ⟨4062664800, plus1345⟩, ⟨4078994400, plus1245⟩,
      ⟨4094114400, plus1345⟩ ]⟩

-- The time of Kwajalein.
def kwajalein : History :=
  let lmt : Reckoning := ⟨.ofSeconds 40160, "LMT"⟩
  let plus11 : Reckoning := ⟨.ofSeconds 39600, "+11"⟩
  let plus10 : Reckoning := ⟨.ofSeconds 36000, "+10"⟩
  let plus09 : Reckoning := ⟨.ofSeconds 32400, "+09"⟩
  let minus12 : Reckoning := ⟨.ofSeconds (-43200), "-12"⟩
  let plus12 : Reckoning := ⟨.ofSeconds 43200, "+12"⟩
  ⟨lmt,
    [ ⟨-2177492960, plus11⟩, ⟨-1041418800, plus10⟩, ⟨-907408800, plus09⟩, ⟨-817462800, plus11⟩,
      ⟨-7988400, minus12⟩, ⟨745934400, plus12⟩ ]⟩

end EventTime.History
