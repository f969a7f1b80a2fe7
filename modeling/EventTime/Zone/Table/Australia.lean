import EventTime.Zone.Region

namespace EventTime.History

-- The time of Lord Howe.
def lordHowe : History :=
  let lmt : Reckoning := ⟨.ofSeconds 38180, "LMT"⟩
  let aest : Reckoning := ⟨.ofSeconds 36000, "AEST"⟩
  let plus1030 : Reckoning := ⟨.ofSeconds 37800, "+1030"⟩
  let plus1130 : Reckoning := ⟨.ofSeconds 41400, "+1130"⟩
  let plus11 : Reckoning := ⟨.ofSeconds 39600, "+11"⟩
  ⟨lmt,
    [ ⟨-2364114980, aest⟩, ⟨352216800, plus1030⟩, ⟨372785400, plus1130⟩, ⟨384273000, plus1030⟩,
      ⟨404839800, plus1130⟩, ⟨415722600, plus1030⟩, ⟨436289400, plus1130⟩,
      ⟨447172200, plus1030⟩, ⟨467739000, plus1130⟩, ⟨478621800, plus1030⟩, ⟨499188600, plus11⟩,
      ⟨511282800, plus1030⟩, ⟨530033400, plus11⟩, ⟨542732400, plus1030⟩, ⟨562087800, plus11⟩,
      ⟨574786800, plus1030⟩, ⟨594142200, plus11⟩, ⟨606236400, plus1030⟩, ⟨625591800, plus11⟩,
      ⟨636476400, plus1030⟩, ⟨657041400, plus11⟩, ⟨667926000, plus1030⟩, ⟨688491000, plus11⟩,
      ⟨699375600, plus1030⟩, ⟨719940600, plus11⟩, ⟨731430000, plus1030⟩, ⟨751995000, plus11⟩,
      ⟨762879600, plus1030⟩, ⟨783444600, plus11⟩, ⟨794329200, plus1030⟩, ⟨814894200, plus11⟩,
      ⟨828198000, plus1030⟩, ⟨846343800, plus11⟩, ⟨859647600, plus1030⟩, ⟨877793400, plus11⟩,
      ⟨891097200, plus1030⟩, ⟨909243000, plus11⟩, ⟨922546800, plus1030⟩, ⟨941297400, plus11⟩,
      ⟨953996400, plus1030⟩, ⟨967303800, plus11⟩, ⟨985446000, plus1030⟩, ⟨1004196600, plus11⟩,
      ⟨1017500400, plus1030⟩, ⟨1035646200, plus11⟩, ⟨1048950000, plus1030⟩,
      ⟨1067095800, plus11⟩, ⟨1080399600, plus1030⟩, ⟨1099150200, plus11⟩,
      ⟨1111849200, plus1030⟩, ⟨1130599800, plus11⟩, ⟨1143903600, plus1030⟩,
      ⟨1162049400, plus11⟩, ⟨1174748400, plus1030⟩, ⟨1193499000, plus11⟩,
      ⟨1207407600, plus1030⟩, ⟨1223134200, plus11⟩, ⟨1238857200, plus1030⟩,
      ⟨1254583800, plus11⟩, ⟨1270306800, plus1030⟩, ⟨1286033400, plus11⟩,
      ⟨1301756400, plus1030⟩, ⟨1317483000, plus11⟩, ⟨1333206000, plus1030⟩,
      ⟨1349537400, plus11⟩, ⟨1365260400, plus1030⟩, ⟨1380987000, plus11⟩,
      ⟨1396710000, plus1030⟩, ⟨1412436600, plus11⟩, ⟨1428159600, plus1030⟩,
      ⟨1443886200, plus11⟩, ⟨1459609200, plus1030⟩, ⟨1475335800, plus11⟩,
      ⟨1491058800, plus1030⟩, ⟨1506785400, plus11⟩, ⟨1522508400, plus1030⟩,
      ⟨1538839800, plus11⟩, ⟨1554562800, plus1030⟩, ⟨1570289400, plus11⟩,
      ⟨1586012400, plus1030⟩, ⟨1601739000, plus11⟩, ⟨1617462000, plus1030⟩,
      ⟨1633188600, plus11⟩, ⟨1648911600, plus1030⟩, ⟨1664638200, plus11⟩,
      ⟨1680361200, plus1030⟩, ⟨1696087800, plus11⟩, ⟨1712415600, plus1030⟩,
      ⟨1728142200, plus11⟩, ⟨1743865200, plus1030⟩, ⟨1759591800, plus11⟩,
      ⟨1775314800, plus1030⟩, ⟨1791041400, plus11⟩, ⟨1806764400, plus1030⟩,
      ⟨1822491000, plus11⟩, ⟨1838214000, plus1030⟩, ⟨1853940600, plus11⟩,
      ⟨1869663600, plus1030⟩, ⟨1885995000, plus11⟩, ⟨1901718000, plus1030⟩,
      ⟨1917444600, plus11⟩, ⟨1933167600, plus1030⟩, ⟨1948894200, plus11⟩,
      ⟨1964617200, plus1030⟩, ⟨1980343800, plus11⟩, ⟨1996066800, plus1030⟩,
      ⟨2011793400, plus11⟩, ⟨2027516400, plus1030⟩, ⟨2043243000, plus11⟩,
      ⟨2058966000, plus1030⟩, ⟨2075297400, plus11⟩, ⟨2091020400, plus1030⟩,
      ⟨2106747000, plus11⟩, ⟨2122470000, plus1030⟩, ⟨2138196600, plus11⟩,
      ⟨2153919600, plus1030⟩, ⟨2169646200, plus11⟩, ⟨2185369200, plus1030⟩,
      ⟨2201095800, plus11⟩, ⟨2216818800, plus1030⟩, ⟨2233150200, plus11⟩,
      ⟨2248873200, plus1030⟩, ⟨2264599800, plus11⟩, ⟨2280322800, plus1030⟩,
      ⟨2296049400, plus11⟩, ⟨2311772400, plus1030⟩, ⟨2327499000, plus11⟩,
      ⟨2343222000, plus1030⟩, ⟨2358948600, plus11⟩, ⟨2374671600, plus1030⟩,
      ⟨2390398200, plus11⟩, ⟨2406121200, plus1030⟩, ⟨2422452600, plus11⟩,
      ⟨2438175600, plus1030⟩, ⟨2453902200, plus11⟩, ⟨2469625200, plus1030⟩,
      ⟨2485351800, plus11⟩, ⟨2501074800, plus1030⟩, ⟨2516801400, plus11⟩,
      ⟨2532524400, plus1030⟩, ⟨2548251000, plus11⟩, ⟨2563974000, plus1030⟩,
      ⟨2579700600, plus11⟩, ⟨2596028400, plus1030⟩, ⟨2611755000, plus11⟩,
      ⟨2627478000, plus1030⟩, ⟨2643204600, plus11⟩, ⟨2658927600, plus1030⟩,
      ⟨2674654200, plus11⟩, ⟨2690377200, plus1030⟩, ⟨2706103800, plus11⟩,
      ⟨2721826800, plus1030⟩, ⟨2737553400, plus11⟩, ⟨2753276400, plus1030⟩,
      ⟨2769607800, plus11⟩, ⟨2785330800, plus1030⟩, ⟨2801057400, plus11⟩,
      ⟨2816780400, plus1030⟩, ⟨2832507000, plus11⟩, ⟨2848230000, plus1030⟩,
      ⟨2863956600, plus11⟩, ⟨2879679600, plus1030⟩, ⟨2895406200, plus11⟩,
      ⟨2911129200, plus1030⟩, ⟨2926855800, plus11⟩, ⟨2942578800, plus1030⟩,
      ⟨2958910200, plus11⟩, ⟨2974633200, plus1030⟩, ⟨2990359800, plus11⟩,
      ⟨3006082800, plus1030⟩, ⟨3021809400, plus11⟩, ⟨3037532400, plus1030⟩,
      ⟨3053259000, plus11⟩, ⟨3068982000, plus1030⟩, ⟨3084708600, plus11⟩,
      ⟨3100431600, plus1030⟩, ⟨3116763000, plus11⟩, ⟨3132486000, plus1030⟩,
      ⟨3148212600, plus11⟩, ⟨3163935600, plus1030⟩, ⟨3179662200, plus11⟩,
      ⟨3195385200, plus1030⟩, ⟨3211111800, plus11⟩, ⟨3226834800, plus1030⟩,
      ⟨3242561400, plus11⟩, ⟨3258284400, plus1030⟩, ⟨3274011000, plus11⟩,
      ⟨3289734000, plus1030⟩, ⟨3306065400, plus11⟩, ⟨3321788400, plus1030⟩,
      ⟨3337515000, plus11⟩, ⟨3353238000, plus1030⟩, ⟨3368964600, plus11⟩,
      ⟨3384687600, plus1030⟩, ⟨3400414200, plus11⟩, ⟨3416137200, plus1030⟩,
      ⟨3431863800, plus11⟩, ⟨3447586800, plus1030⟩, ⟨3463313400, plus11⟩,
      ⟨3479641200, plus1030⟩, ⟨3495367800, plus11⟩, ⟨3511090800, plus1030⟩,
      ⟨3526817400, plus11⟩, ⟨3542540400, plus1030⟩, ⟨3558267000, plus11⟩,
      ⟨3573990000, plus1030⟩, ⟨3589716600, plus11⟩, ⟨3605439600, plus1030⟩,
      ⟨3621166200, plus11⟩, ⟨3636889200, plus1030⟩, ⟨3653220600, plus11⟩,
      ⟨3668943600, plus1030⟩, ⟨3684670200, plus11⟩, ⟨3700393200, plus1030⟩,
      ⟨3716119800, plus11⟩, ⟨3731842800, plus1030⟩, ⟨3747569400, plus11⟩,
      ⟨3763292400, plus1030⟩, ⟨3779019000, plus11⟩, ⟨3794742000, plus1030⟩,
      ⟨3810468600, plus11⟩, ⟨3826191600, plus1030⟩, ⟨3842523000, plus11⟩,
      ⟨3858246000, plus1030⟩, ⟨3873972600, plus11⟩, ⟨3889695600, plus1030⟩,
      ⟨3905422200, plus11⟩, ⟨3921145200, plus1030⟩, ⟨3936871800, plus11⟩,
      ⟨3952594800, plus1030⟩, ⟨3968321400, plus11⟩, ⟨3984044400, plus1030⟩,
      ⟨4000375800, plus11⟩, ⟨4016098800, plus1030⟩, ⟨4031825400, plus11⟩,
      ⟨4047548400, plus1030⟩, ⟨4063275000, plus11⟩, ⟨4078998000, plus1030⟩, ⟨4094724600, plus11⟩ ]⟩

-- The time of Eucla.
def eucla : History :=
  let lmt : Reckoning := ⟨.ofSeconds 30928, "LMT"⟩
  let plus0845 : Reckoning := ⟨.ofSeconds 31500, "+0845"⟩
  let plus0945 : Reckoning := ⟨.ofSeconds 35100, "+0945"⟩
  ⟨lmt,
    [ ⟨-2337928528, plus0845⟩, ⟨-1672555500, plus0945⟩, ⟨-1665384300, plus0845⟩,
      ⟨-883637100, plus0945⟩, ⟨-876120300, plus0845⟩, ⟨-860395500, plus0945⟩,
      ⟨-844670700, plus0845⟩, ⟨152039700, plus0945⟩, ⟨162926100, plus0845⟩,
      ⟨436295700, plus0945⟩, ⟨447182100, plus0845⟩, ⟨690311700, plus0945⟩,
      ⟨699383700, plus0845⟩, ⟨1165079700, plus0945⟩, ⟨1174756500, plus0845⟩,
      ⟨1193505300, plus0945⟩, ⟨1206810900, plus0845⟩, ⟨1224954900, plus0945⟩,
      ⟨1238260500, plus0845⟩ ]⟩

-- The time of Sydney.
def sydney : History :=
  let lmt : Reckoning := ⟨.ofSeconds 36292, "LMT"⟩
  let aest : Reckoning := ⟨.ofSeconds 36000, "AEST"⟩
  let aedt : Reckoning := ⟨.ofSeconds 39600, "AEDT"⟩
  ⟨lmt,
    [ ⟨-2364113092, aest⟩, ⟨-1672560000, aedt⟩, ⟨-1665388800, aest⟩, ⟨-883641600, aedt⟩,
      ⟨-876124800, aest⟩, ⟨-860400000, aedt⟩, ⟨-844675200, aest⟩, ⟨-828345600, aedt⟩,
      ⟨-813225600, aest⟩, ⟨57686400, aedt⟩, ⟨67968000, aest⟩, ⟨89136000, aedt⟩,
      ⟨100022400, aest⟩, ⟨120585600, aedt⟩, ⟨131472000, aest⟩, ⟨152035200, aedt⟩,
      ⟨162921600, aest⟩, ⟨183484800, aedt⟩, ⟨194976000, aest⟩, ⟨215539200, aedt⟩,
      ⟨226425600, aest⟩, ⟨246988800, aedt⟩, ⟨257875200, aest⟩, ⟨278438400, aedt⟩,
      ⟨289324800, aest⟩, ⟨309888000, aedt⟩, ⟨320774400, aest⟩, ⟨341337600, aedt⟩,
      ⟨352224000, aest⟩, ⟨372787200, aedt⟩, ⟨386697600, aest⟩, ⟨404841600, aedt⟩,
      ⟨415728000, aest⟩, ⟨436291200, aedt⟩, ⟨447177600, aest⟩, ⟨467740800, aedt⟩,
      ⟨478627200, aest⟩, ⟨499190400, aedt⟩, ⟨511286400, aest⟩, ⟨530035200, aedt⟩,
      ⟨542736000, aest⟩, ⟨562089600, aedt⟩, ⟨574790400, aest⟩, ⟨594144000, aedt⟩,
      ⟨606240000, aest⟩, ⟨625593600, aedt⟩, ⟨636480000, aest⟩, ⟨657043200, aedt⟩,
      ⟨667929600, aest⟩, ⟨688492800, aedt⟩, ⟨699379200, aest⟩, ⟨719942400, aedt⟩,
      ⟨731433600, aest⟩, ⟨751996800, aedt⟩, ⟨762883200, aest⟩, ⟨783446400, aedt⟩,
      ⟨794332800, aest⟩, ⟨814896000, aedt⟩, ⟨828201600, aest⟩, ⟨846345600, aedt⟩,
      ⟨859651200, aest⟩, ⟨877795200, aedt⟩, ⟨891100800, aest⟩, ⟨909244800, aedt⟩,
      ⟨922550400, aest⟩, ⟨941299200, aedt⟩, ⟨954000000, aest⟩, ⟨967305600, aedt⟩,
      ⟨985449600, aest⟩, ⟨1004198400, aedt⟩, ⟨1017504000, aest⟩, ⟨1035648000, aedt⟩,
      ⟨1048953600, aest⟩, ⟨1067097600, aedt⟩, ⟨1080403200, aest⟩, ⟨1099152000, aedt⟩,
      ⟨1111852800, aest⟩, ⟨1130601600, aedt⟩, ⟨1143907200, aest⟩, ⟨1162051200, aedt⟩,
      ⟨1174752000, aest⟩, ⟨1193500800, aedt⟩, ⟨1207411200, aest⟩, ⟨1223136000, aedt⟩,
      ⟨1238860800, aest⟩, ⟨1254585600, aedt⟩, ⟨1270310400, aest⟩, ⟨1286035200, aedt⟩,
      ⟨1301760000, aest⟩, ⟨1317484800, aedt⟩, ⟨1333209600, aest⟩, ⟨1349539200, aedt⟩,
      ⟨1365264000, aest⟩, ⟨1380988800, aedt⟩, ⟨1396713600, aest⟩, ⟨1412438400, aedt⟩,
      ⟨1428163200, aest⟩, ⟨1443888000, aedt⟩, ⟨1459612800, aest⟩, ⟨1475337600, aedt⟩,
      ⟨1491062400, aest⟩, ⟨1506787200, aedt⟩, ⟨1522512000, aest⟩, ⟨1538841600, aedt⟩,
      ⟨1554566400, aest⟩, ⟨1570291200, aedt⟩, ⟨1586016000, aest⟩, ⟨1601740800, aedt⟩,
      ⟨1617465600, aest⟩, ⟨1633190400, aedt⟩, ⟨1648915200, aest⟩, ⟨1664640000, aedt⟩,
      ⟨1680364800, aest⟩, ⟨1696089600, aedt⟩, ⟨1712419200, aest⟩, ⟨1728144000, aedt⟩,
      ⟨1743868800, aest⟩, ⟨1759593600, aedt⟩, ⟨1775318400, aest⟩, ⟨1791043200, aedt⟩,
      ⟨1806768000, aest⟩, ⟨1822492800, aedt⟩, ⟨1838217600, aest⟩, ⟨1853942400, aedt⟩,
      ⟨1869667200, aest⟩, ⟨1885996800, aedt⟩, ⟨1901721600, aest⟩, ⟨1917446400, aedt⟩,
      ⟨1933171200, aest⟩, ⟨1948896000, aedt⟩, ⟨1964620800, aest⟩, ⟨1980345600, aedt⟩,
      ⟨1996070400, aest⟩, ⟨2011795200, aedt⟩, ⟨2027520000, aest⟩, ⟨2043244800, aedt⟩,
      ⟨2058969600, aest⟩, ⟨2075299200, aedt⟩, ⟨2091024000, aest⟩, ⟨2106748800, aedt⟩,
      ⟨2122473600, aest⟩, ⟨2138198400, aedt⟩, ⟨2153923200, aest⟩, ⟨2169648000, aedt⟩,
      ⟨2185372800, aest⟩, ⟨2201097600, aedt⟩, ⟨2216822400, aest⟩, ⟨2233152000, aedt⟩,
      ⟨2248876800, aest⟩, ⟨2264601600, aedt⟩, ⟨2280326400, aest⟩, ⟨2296051200, aedt⟩,
      ⟨2311776000, aest⟩, ⟨2327500800, aedt⟩, ⟨2343225600, aest⟩, ⟨2358950400, aedt⟩,
      ⟨2374675200, aest⟩, ⟨2390400000, aedt⟩, ⟨2406124800, aest⟩, ⟨2422454400, aedt⟩,
      ⟨2438179200, aest⟩, ⟨2453904000, aedt⟩, ⟨2469628800, aest⟩, ⟨2485353600, aedt⟩,
      ⟨2501078400, aest⟩, ⟨2516803200, aedt⟩, ⟨2532528000, aest⟩, ⟨2548252800, aedt⟩,
      ⟨2563977600, aest⟩, ⟨2579702400, aedt⟩, ⟨2596032000, aest⟩, ⟨2611756800, aedt⟩,
      ⟨2627481600, aest⟩, ⟨2643206400, aedt⟩, ⟨2658931200, aest⟩, ⟨2674656000, aedt⟩,
      ⟨2690380800, aest⟩, ⟨2706105600, aedt⟩, ⟨2721830400, aest⟩, ⟨2737555200, aedt⟩,
      ⟨2753280000, aest⟩, ⟨2769609600, aedt⟩, ⟨2785334400, aest⟩, ⟨2801059200, aedt⟩,
      ⟨2816784000, aest⟩, ⟨2832508800, aedt⟩, ⟨2848233600, aest⟩, ⟨2863958400, aedt⟩,
      ⟨2879683200, aest⟩, ⟨2895408000, aedt⟩, ⟨2911132800, aest⟩, ⟨2926857600, aedt⟩,
      ⟨2942582400, aest⟩, ⟨2958912000, aedt⟩, ⟨2974636800, aest⟩, ⟨2990361600, aedt⟩,
      ⟨3006086400, aest⟩, ⟨3021811200, aedt⟩, ⟨3037536000, aest⟩, ⟨3053260800, aedt⟩,
      ⟨3068985600, aest⟩, ⟨3084710400, aedt⟩, ⟨3100435200, aest⟩, ⟨3116764800, aedt⟩,
      ⟨3132489600, aest⟩, ⟨3148214400, aedt⟩, ⟨3163939200, aest⟩, ⟨3179664000, aedt⟩,
      ⟨3195388800, aest⟩, ⟨3211113600, aedt⟩, ⟨3226838400, aest⟩, ⟨3242563200, aedt⟩,
      ⟨3258288000, aest⟩, ⟨3274012800, aedt⟩, ⟨3289737600, aest⟩, ⟨3306067200, aedt⟩,
      ⟨3321792000, aest⟩, ⟨3337516800, aedt⟩, ⟨3353241600, aest⟩, ⟨3368966400, aedt⟩,
      ⟨3384691200, aest⟩, ⟨3400416000, aedt⟩, ⟨3416140800, aest⟩, ⟨3431865600, aedt⟩,
      ⟨3447590400, aest⟩, ⟨3463315200, aedt⟩, ⟨3479644800, aest⟩, ⟨3495369600, aedt⟩,
      ⟨3511094400, aest⟩, ⟨3526819200, aedt⟩, ⟨3542544000, aest⟩, ⟨3558268800, aedt⟩,
      ⟨3573993600, aest⟩, ⟨3589718400, aedt⟩, ⟨3605443200, aest⟩, ⟨3621168000, aedt⟩,
      ⟨3636892800, aest⟩, ⟨3653222400, aedt⟩, ⟨3668947200, aest⟩, ⟨3684672000, aedt⟩,
      ⟨3700396800, aest⟩, ⟨3716121600, aedt⟩, ⟨3731846400, aest⟩, ⟨3747571200, aedt⟩,
      ⟨3763296000, aest⟩, ⟨3779020800, aedt⟩, ⟨3794745600, aest⟩, ⟨3810470400, aedt⟩,
      ⟨3826195200, aest⟩, ⟨3842524800, aedt⟩, ⟨3858249600, aest⟩, ⟨3873974400, aedt⟩,
      ⟨3889699200, aest⟩, ⟨3905424000, aedt⟩, ⟨3921148800, aest⟩, ⟨3936873600, aedt⟩,
      ⟨3952598400, aest⟩, ⟨3968323200, aedt⟩, ⟨3984048000, aest⟩, ⟨4000377600, aedt⟩,
      ⟨4016102400, aest⟩, ⟨4031827200, aedt⟩, ⟨4047552000, aest⟩, ⟨4063276800, aedt⟩,
      ⟨4079001600, aest⟩, ⟨4094726400, aedt⟩ ]⟩

end EventTime.History
