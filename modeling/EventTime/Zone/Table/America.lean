import EventTime.Zone.Region

namespace EventTime.History

-- The time of Panama.
def panama : History :=
  let lmt : Reckoning := ⟨.ofSeconds (-19088), "LMT"⟩
  let cmt : Reckoning := ⟨.ofSeconds (-19176), "CMT"⟩
  let est : Reckoning := ⟨.ofSeconds (-18000), "EST"⟩
  ⟨lmt,
    [ ⟨-2524502512, cmt⟩, ⟨-1946918424, est⟩ ]⟩

-- The time of New York.
def newYork : History :=
  let lmt : Reckoning := ⟨.ofSeconds (-17762), "LMT"⟩
  let est : Reckoning := ⟨.ofSeconds (-18000), "EST"⟩
  let edt : Reckoning := ⟨.ofSeconds (-14400), "EDT"⟩
  let ewt : Reckoning := ⟨.ofSeconds (-14400), "EWT"⟩
  let ept : Reckoning := ⟨.ofSeconds (-14400), "EPT"⟩
  ⟨lmt,
    [ ⟨-2717650800, est⟩, ⟨-1633280400, edt⟩, ⟨-1615140000, est⟩, ⟨-1601830800, edt⟩,
      ⟨-1583690400, est⟩, ⟨-1570381200, edt⟩, ⟨-1551636000, est⟩, ⟨-1536512400, edt⟩,
      ⟨-1523210400, est⟩, ⟨-1504458000, edt⟩, ⟨-1491760800, est⟩, ⟨-1473008400, edt⟩,
      ⟨-1459706400, est⟩, ⟨-1441558800, edt⟩, ⟨-1428256800, est⟩, ⟨-1410109200, edt⟩,
      ⟨-1396807200, est⟩, ⟨-1378659600, edt⟩, ⟨-1365357600, est⟩, ⟨-1347210000, edt⟩,
      ⟨-1333908000, est⟩, ⟨-1315155600, edt⟩, ⟨-1301853600, est⟩, ⟨-1283706000, edt⟩,
      ⟨-1270404000, est⟩, ⟨-1252256400, edt⟩, ⟨-1238954400, est⟩, ⟨-1220806800, edt⟩,
      ⟨-1207504800, est⟩, ⟨-1189357200, edt⟩, ⟨-1176055200, est⟩, ⟨-1157302800, edt⟩,
      ⟨-1144605600, est⟩, ⟨-1125853200, edt⟩, ⟨-1112551200, est⟩, ⟨-1094403600, edt⟩,
      ⟨-1081101600, est⟩, ⟨-1062954000, edt⟩, ⟨-1049652000, est⟩, ⟨-1031504400, edt⟩,
      ⟨-1018202400, est⟩, ⟨-1000054800, edt⟩, ⟨-986752800, est⟩, ⟨-968000400, edt⟩,
      ⟨-955303200, est⟩, ⟨-936550800, edt⟩, ⟨-923248800, est⟩, ⟨-905101200, edt⟩,
      ⟨-891799200, est⟩, ⟨-880218000, ewt⟩, ⟨-769395600, ept⟩, ⟨-765396000, est⟩,
      ⟨-747248400, edt⟩, ⟨-733946400, est⟩, ⟨-715798800, edt⟩, ⟨-702496800, est⟩,
      ⟨-684349200, edt⟩, ⟨-671047200, est⟩, ⟨-652899600, edt⟩, ⟨-639597600, est⟩,
      ⟨-620845200, edt⟩, ⟨-608148000, est⟩, ⟨-589395600, edt⟩, ⟨-576093600, est⟩,
      ⟨-557946000, edt⟩, ⟨-544644000, est⟩, ⟨-526496400, edt⟩, ⟨-513194400, est⟩,
      ⟨-495046800, edt⟩, ⟨-481744800, est⟩, ⟨-463597200, edt⟩, ⟨-447271200, est⟩,
      ⟨-431542800, edt⟩, ⟨-415821600, est⟩, ⟨-400093200, edt⟩, ⟨-384372000, est⟩,
      ⟨-368643600, edt⟩, ⟨-352922400, est⟩, ⟨-337194000, edt⟩, ⟨-321472800, est⟩,
      ⟨-305744400, edt⟩, ⟨-289418400, est⟩, ⟨-273690000, edt⟩, ⟨-257968800, est⟩,
      ⟨-242240400, edt⟩, ⟨-226519200, est⟩, ⟨-210790800, edt⟩, ⟨-195069600, est⟩,
      ⟨-179341200, edt⟩, ⟨-163620000, est⟩, ⟨-147891600, edt⟩, ⟨-131565600, est⟩,
      ⟨-116442000, edt⟩, ⟨-100116000, est⟩, ⟨-84387600, edt⟩, ⟨-68666400, est⟩,
      ⟨-52938000, edt⟩, ⟨-37216800, est⟩, ⟨-21488400, edt⟩, ⟨-5767200, est⟩, ⟨9961200, edt⟩,
      ⟨25682400, est⟩, ⟨41410800, edt⟩, ⟨57736800, est⟩, ⟨73465200, edt⟩, ⟨89186400, est⟩,
      ⟨104914800, edt⟩, ⟨120636000, est⟩, ⟨126687600, edt⟩, ⟨152085600, est⟩, ⟨162370800, edt⟩,
      ⟨183535200, est⟩, ⟨199263600, edt⟩, ⟨215589600, est⟩, ⟨230713200, edt⟩, ⟨247039200, est⟩,
      ⟨262767600, edt⟩, ⟨278488800, est⟩, ⟨294217200, edt⟩, ⟨309938400, est⟩, ⟨325666800, edt⟩,
      ⟨341388000, est⟩, ⟨357116400, edt⟩, ⟨372837600, est⟩, ⟨388566000, edt⟩, ⟨404892000, est⟩,
      ⟨420015600, edt⟩, ⟨436341600, est⟩, ⟨452070000, edt⟩, ⟨467791200, est⟩, ⟨483519600, edt⟩,
      ⟨499240800, est⟩, ⟨514969200, edt⟩, ⟨530690400, est⟩, ⟨544604400, edt⟩, ⟨562140000, est⟩,
      ⟨576054000, edt⟩, ⟨594194400, est⟩, ⟨607503600, edt⟩, ⟨625644000, est⟩, ⟨638953200, edt⟩,
      ⟨657093600, est⟩, ⟨671007600, edt⟩, ⟨688543200, est⟩, ⟨702457200, edt⟩, ⟨719992800, est⟩,
      ⟨733906800, edt⟩, ⟨752047200, est⟩, ⟨765356400, edt⟩, ⟨783496800, est⟩, ⟨796806000, edt⟩,
      ⟨814946400, est⟩, ⟨828860400, edt⟩, ⟨846396000, est⟩, ⟨860310000, edt⟩, ⟨877845600, est⟩,
      ⟨891759600, edt⟩, ⟨909295200, est⟩, ⟨923209200, edt⟩, ⟨941349600, est⟩, ⟨954658800, edt⟩,
      ⟨972799200, est⟩, ⟨986108400, edt⟩, ⟨1004248800, est⟩, ⟨1018162800, edt⟩,
      ⟨1035698400, est⟩, ⟨1049612400, edt⟩, ⟨1067148000, est⟩, ⟨1081062000, edt⟩,
      ⟨1099202400, est⟩, ⟨1112511600, edt⟩, ⟨1130652000, est⟩, ⟨1143961200, edt⟩,
      ⟨1162101600, est⟩, ⟨1173596400, edt⟩, ⟨1194156000, est⟩, ⟨1205046000, edt⟩,
      ⟨1225605600, est⟩, ⟨1236495600, edt⟩, ⟨1257055200, est⟩, ⟨1268550000, edt⟩,
      ⟨1289109600, est⟩, ⟨1299999600, edt⟩, ⟨1320559200, est⟩, ⟨1331449200, edt⟩,
      ⟨1352008800, est⟩, ⟨1362898800, edt⟩, ⟨1383458400, est⟩, ⟨1394348400, edt⟩,
      ⟨1414908000, est⟩, ⟨1425798000, edt⟩, ⟨1446357600, est⟩, ⟨1457852400, edt⟩,
      ⟨1478412000, est⟩, ⟨1489302000, edt⟩, ⟨1509861600, est⟩, ⟨1520751600, edt⟩,
      ⟨1541311200, est⟩, ⟨1552201200, edt⟩, ⟨1572760800, est⟩, ⟨1583650800, edt⟩,
      ⟨1604210400, est⟩, ⟨1615705200, edt⟩, ⟨1636264800, est⟩, ⟨1647154800, edt⟩,
      ⟨1667714400, est⟩, ⟨1678604400, edt⟩, ⟨1699164000, est⟩, ⟨1710054000, edt⟩,
      ⟨1730613600, est⟩, ⟨1741503600, edt⟩, ⟨1762063200, est⟩, ⟨1772953200, edt⟩,
      ⟨1793512800, est⟩, ⟨1805007600, edt⟩, ⟨1825567200, est⟩, ⟨1836457200, edt⟩,
      ⟨1857016800, est⟩, ⟨1867906800, edt⟩, ⟨1888466400, est⟩, ⟨1899356400, edt⟩,
      ⟨1919916000, est⟩, ⟨1930806000, edt⟩, ⟨1951365600, est⟩, ⟨1962860400, edt⟩,
      ⟨1983420000, est⟩, ⟨1994310000, edt⟩, ⟨2014869600, est⟩, ⟨2025759600, edt⟩,
      ⟨2046319200, est⟩, ⟨2057209200, edt⟩, ⟨2077768800, est⟩, ⟨2088658800, edt⟩,
      ⟨2109218400, est⟩, ⟨2120108400, edt⟩, ⟨2140668000, est⟩, ⟨2152162800, edt⟩,
      ⟨2172722400, est⟩, ⟨2183612400, edt⟩, ⟨2204172000, est⟩, ⟨2215062000, edt⟩,
      ⟨2235621600, est⟩, ⟨2246511600, edt⟩, ⟨2267071200, est⟩, ⟨2277961200, edt⟩,
      ⟨2298520800, est⟩, ⟨2309410800, edt⟩, ⟨2329970400, est⟩, ⟨2341465200, edt⟩,
      ⟨2362024800, est⟩, ⟨2372914800, edt⟩, ⟨2393474400, est⟩, ⟨2404364400, edt⟩,
      ⟨2424924000, est⟩, ⟨2435814000, edt⟩, ⟨2456373600, est⟩, ⟨2467263600, edt⟩,
      ⟨2487823200, est⟩, ⟨2499318000, edt⟩, ⟨2519877600, est⟩, ⟨2530767600, edt⟩,
      ⟨2551327200, est⟩, ⟨2562217200, edt⟩, ⟨2582776800, est⟩, ⟨2593666800, edt⟩,
      ⟨2614226400, est⟩, ⟨2625116400, edt⟩, ⟨2645676000, est⟩, ⟨2656566000, edt⟩,
      ⟨2677125600, est⟩, ⟨2688620400, edt⟩, ⟨2709180000, est⟩, ⟨2720070000, edt⟩,
      ⟨2740629600, est⟩, ⟨2751519600, edt⟩, ⟨2772079200, est⟩, ⟨2782969200, edt⟩,
      ⟨2803528800, est⟩, ⟨2814418800, edt⟩, ⟨2834978400, est⟩, ⟨2846473200, edt⟩,
      ⟨2867032800, est⟩, ⟨2877922800, edt⟩, ⟨2898482400, est⟩, ⟨2909372400, edt⟩,
      ⟨2929932000, est⟩, ⟨2940822000, edt⟩, ⟨2961381600, est⟩, ⟨2972271600, edt⟩,
      ⟨2992831200, est⟩, ⟨3003721200, edt⟩, ⟨3024280800, est⟩, ⟨3035775600, edt⟩,
      ⟨3056335200, est⟩, ⟨3067225200, edt⟩, ⟨3087784800, est⟩, ⟨3098674800, edt⟩,
      ⟨3119234400, est⟩, ⟨3130124400, edt⟩, ⟨3150684000, est⟩, ⟨3161574000, edt⟩,
      ⟨3182133600, est⟩, ⟨3193023600, edt⟩, ⟨3213583200, est⟩, ⟨3225078000, edt⟩,
      ⟨3245637600, est⟩, ⟨3256527600, edt⟩, ⟨3277087200, est⟩, ⟨3287977200, edt⟩,
      ⟨3308536800, est⟩, ⟨3319426800, edt⟩, ⟨3339986400, est⟩, ⟨3350876400, edt⟩,
      ⟨3371436000, est⟩, ⟨3382930800, edt⟩, ⟨3403490400, est⟩, ⟨3414380400, edt⟩,
      ⟨3434940000, est⟩, ⟨3445830000, edt⟩, ⟨3466389600, est⟩, ⟨3477279600, edt⟩,
      ⟨3497839200, est⟩, ⟨3508729200, edt⟩, ⟨3529288800, est⟩, ⟨3540178800, edt⟩,
      ⟨3560738400, est⟩, ⟨3572233200, edt⟩, ⟨3592792800, est⟩, ⟨3603682800, edt⟩,
      ⟨3624242400, est⟩, ⟨3635132400, edt⟩, ⟨3655692000, est⟩, ⟨3666582000, edt⟩,
      ⟨3687141600, est⟩, ⟨3698031600, edt⟩, ⟨3718591200, est⟩, ⟨3730086000, edt⟩,
      ⟨3750645600, est⟩, ⟨3761535600, edt⟩, ⟨3782095200, est⟩, ⟨3792985200, edt⟩,
      ⟨3813544800, est⟩, ⟨3824434800, edt⟩, ⟨3844994400, est⟩, ⟨3855884400, edt⟩,
      ⟨3876444000, est⟩, ⟨3887334000, edt⟩, ⟨3907893600, est⟩, ⟨3919388400, edt⟩,
      ⟨3939948000, est⟩, ⟨3950838000, edt⟩, ⟨3971397600, est⟩, ⟨3982287600, edt⟩,
      ⟨4002847200, est⟩, ⟨4013737200, edt⟩, ⟨4034296800, est⟩, ⟨4045186800, edt⟩,
      ⟨4065746400, est⟩, ⟨4076636400, edt⟩, ⟨4097196000, est⟩ ]⟩

-- The time of St Johns.
def stJohns : History :=
  let lmt : Reckoning := ⟨.ofSeconds (-12652), "LMT"⟩
  let nst : Reckoning := ⟨.ofSeconds (-12652), "NST"⟩
  let ndt : Reckoning := ⟨.ofSeconds (-9052), "NDT"⟩
  let nst2 : Reckoning := ⟨.ofSeconds (-12600), "NST"⟩
  let ndt2 : Reckoning := ⟨.ofSeconds (-9000), "NDT"⟩
  let nwt : Reckoning := ⟨.ofSeconds (-9000), "NWT"⟩
  let npt : Reckoning := ⟨.ofSeconds (-9000), "NPT"⟩
  let nddt : Reckoning := ⟨.ofSeconds (-5400), "NDDT"⟩
  ⟨lmt,
    [ ⟨-2713897748, nst⟩, ⟨-1664130548, ndt⟩, ⟨-1650137348, nst⟩, ⟨-1632076148, ndt⟩,
      ⟨-1615145348, nst⟩, ⟨-1598650148, ndt⟩, ⟨-1590100148, nst⟩, ⟨-1567286948, ndt⟩,
      ⟨-1551565748, nst⟩, ⟨-1535837348, ndt⟩, ⟨-1520116148, nst⟩, ⟨-1503782948, ndt⟩,
      ⟨-1488666548, nst⟩, ⟨-1472333348, ndt⟩, ⟨-1457216948, nst⟩, ⟨-1440883748, ndt⟩,
      ⟨-1425767348, nst⟩, ⟨-1409434148, ndt⟩, ⟨-1394317748, nst⟩, ⟨-1377984548, ndt⟩,
      ⟨-1362263348, nst⟩, ⟨-1346534948, ndt⟩, ⟨-1330813748, nst⟩, ⟨-1314480548, ndt⟩,
      ⟨-1299364148, nst⟩, ⟨-1283030948, ndt⟩, ⟨-1267914548, nst⟩, ⟨-1251581348, ndt⟩,
      ⟨-1236464948, nst⟩, ⟨-1220131748, ndt⟩, ⟨-1205015348, nst⟩, ⟨-1188682148, ndt⟩,
      ⟨-1172960948, nst⟩, ⟨-1156627748, ndt⟩, ⟨-1141511348, nst⟩, ⟨-1125178148, ndt⟩,
      ⟨-1110061748, nst⟩, ⟨-1096921748, nst2⟩, ⟨-1093728600, ndt2⟩, ⟨-1078612200, nst2⟩,
      ⟨-1061670600, ndt2⟩, ⟨-1048973400, nst2⟩, ⟨-1030221000, ndt2⟩, ⟨-1017523800, nst2⟩,
      ⟨-998771400, ndt2⟩, ⟨-986074200, nst2⟩, ⟨-966717000, ndt2⟩, ⟨-954624600, nst2⟩,
      ⟨-935267400, ndt2⟩, ⟨-922570200, nst2⟩, ⟨-903817800, ndt2⟩, ⟨-891120600, nst2⟩,
      ⟨-872368200, nwt⟩, ⟨-769395600, npt⟩, ⟨-765401400, nst2⟩, ⟨-746044200, ndt2⟩,
      ⟨-733347000, nst2⟩, ⟨-714594600, ndt2⟩, ⟨-701897400, nst2⟩, ⟨-683145000, ndt2⟩,
      ⟨-670447800, nst2⟩, ⟨-651695400, ndt2⟩, ⟨-638998200, nst2⟩, ⟨-619641000, ndt2⟩,
      ⟨-606943800, nst2⟩, ⟨-589401000, ndt2⟩, ⟨-576099000, nst2⟩, ⟨-557951400, ndt2⟩,
      ⟨-544649400, nst2⟩, ⟨-526501800, ndt2⟩, ⟨-513199800, nst2⟩, ⟨-495052200, ndt2⟩,
      ⟨-481750200, nst2⟩, ⟨-463602600, ndt2⟩, ⟨-450300600, nst2⟩, ⟨-431548200, ndt2⟩,
      ⟨-418246200, nst2⟩, ⟨-400098600, ndt2⟩, ⟨-386796600, nst2⟩, ⟨-368649000, ndt2⟩,
      ⟨-355347000, nst2⟩, ⟨-337199400, ndt2⟩, ⟨-323897400, nst2⟩, ⟨-305749800, ndt2⟩,
      ⟨-289423800, nst2⟩, ⟨-273695400, ndt2⟩, ⟨-257974200, nst2⟩, ⟨-242245800, ndt2⟩,
      ⟨-226524600, nst2⟩, ⟨-210796200, ndt2⟩, ⟨-195075000, nst2⟩, ⟨-179346600, ndt2⟩,
      ⟨-163625400, nst2⟩, ⟨-147897000, ndt2⟩, ⟨-131571000, nst2⟩, ⟨-116447400, ndt2⟩,
      ⟨-100121400, nst2⟩, ⟨-84393000, ndt2⟩, ⟨-68671800, nst2⟩, ⟨-52943400, ndt2⟩,
      ⟨-37222200, nst2⟩, ⟨-21493800, ndt2⟩, ⟨-5772600, nst2⟩, ⟨9955800, ndt2⟩, ⟨25677000, nst2⟩,
      ⟨41405400, ndt2⟩, ⟨57731400, nst2⟩, ⟨73459800, ndt2⟩, ⟨89181000, nst2⟩, ⟨104909400, ndt2⟩,
      ⟨120630600, nst2⟩, ⟨136359000, ndt2⟩, ⟨152080200, nst2⟩, ⟨167808600, ndt2⟩,
      ⟨183529800, nst2⟩, ⟨199258200, ndt2⟩, ⟨215584200, nst2⟩, ⟨230707800, ndt2⟩,
      ⟨247033800, nst2⟩, ⟨262762200, ndt2⟩, ⟨278483400, nst2⟩, ⟨294211800, ndt2⟩,
      ⟨309933000, nst2⟩, ⟨325661400, ndt2⟩, ⟨341382600, nst2⟩, ⟨357111000, ndt2⟩,
      ⟨372832200, nst2⟩, ⟨388560600, ndt2⟩, ⟨404886600, nst2⟩, ⟨420010200, ndt2⟩,
      ⟨436336200, nst2⟩, ⟨452064600, ndt2⟩, ⟨467785800, nst2⟩, ⟨483514200, ndt2⟩,
      ⟨499235400, nst2⟩, ⟨514963800, ndt2⟩, ⟨530685000, nst2⟩, ⟨544591860, ndt2⟩,
      ⟨562127460, nst2⟩, ⟨576041460, nddt⟩, ⟨594178260, nst2⟩, ⟨607491060, ndt2⟩,
      ⟨625631460, nst2⟩, ⟨638940660, ndt2⟩, ⟨657081060, nst2⟩, ⟨670995060, ndt2⟩,
      ⟨688530660, nst2⟩, ⟨702444660, ndt2⟩, ⟨719980260, nst2⟩, ⟨733894260, ndt2⟩,
      ⟨752034660, nst2⟩, ⟨765343860, ndt2⟩, ⟨783484260, nst2⟩, ⟨796793460, ndt2⟩,
      ⟨814933860, nst2⟩, ⟨828847860, ndt2⟩, ⟨846383460, nst2⟩, ⟨860297460, ndt2⟩,
      ⟨877833060, nst2⟩, ⟨891747060, ndt2⟩, ⟨909282660, nst2⟩, ⟨923196660, ndt2⟩,
      ⟨941337060, nst2⟩, ⟨954646260, ndt2⟩, ⟨972786660, nst2⟩, ⟨986095860, ndt2⟩,
      ⟨1004236260, nst2⟩, ⟨1018150260, ndt2⟩, ⟨1035685860, nst2⟩, ⟨1049599860, ndt2⟩,
      ⟨1067135460, nst2⟩, ⟨1081049460, ndt2⟩, ⟨1099189860, nst2⟩, ⟨1112499060, ndt2⟩,
      ⟨1130639460, nst2⟩, ⟨1143948660, ndt2⟩, ⟨1162089060, nst2⟩, ⟨1173583860, ndt2⟩,
      ⟨1194143460, nst2⟩, ⟨1205033460, ndt2⟩, ⟨1225593060, nst2⟩, ⟨1236483060, ndt2⟩,
      ⟨1257042660, nst2⟩, ⟨1268537460, ndt2⟩, ⟨1289097060, nst2⟩, ⟨1299987060, ndt2⟩,
      ⟨1320553800, nst2⟩, ⟨1331443800, ndt2⟩, ⟨1352003400, nst2⟩, ⟨1362893400, ndt2⟩,
      ⟨1383453000, nst2⟩, ⟨1394343000, ndt2⟩, ⟨1414902600, nst2⟩, ⟨1425792600, ndt2⟩,
      ⟨1446352200, nst2⟩, ⟨1457847000, ndt2⟩, ⟨1478406600, nst2⟩, ⟨1489296600, ndt2⟩,
      ⟨1509856200, nst2⟩, ⟨1520746200, ndt2⟩, ⟨1541305800, nst2⟩, ⟨1552195800, ndt2⟩,
      ⟨1572755400, nst2⟩, ⟨1583645400, ndt2⟩, ⟨1604205000, nst2⟩, ⟨1615699800, ndt2⟩,
      ⟨1636259400, nst2⟩, ⟨1647149400, ndt2⟩, ⟨1667709000, nst2⟩, ⟨1678599000, ndt2⟩,
      ⟨1699158600, nst2⟩, ⟨1710048600, ndt2⟩, ⟨1730608200, nst2⟩, ⟨1741498200, ndt2⟩,
      ⟨1762057800, nst2⟩, ⟨1772947800, ndt2⟩, ⟨1793507400, nst2⟩, ⟨1805002200, ndt2⟩,
      ⟨1825561800, nst2⟩, ⟨1836451800, ndt2⟩, ⟨1857011400, nst2⟩, ⟨1867901400, ndt2⟩,
      ⟨1888461000, nst2⟩, ⟨1899351000, ndt2⟩, ⟨1919910600, nst2⟩, ⟨1930800600, ndt2⟩,
      ⟨1951360200, nst2⟩, ⟨1962855000, ndt2⟩, ⟨1983414600, nst2⟩, ⟨1994304600, ndt2⟩,
      ⟨2014864200, nst2⟩, ⟨2025754200, ndt2⟩, ⟨2046313800, nst2⟩, ⟨2057203800, ndt2⟩,
      ⟨2077763400, nst2⟩, ⟨2088653400, ndt2⟩, ⟨2109213000, nst2⟩, ⟨2120103000, ndt2⟩,
      ⟨2140662600, nst2⟩, ⟨2152157400, ndt2⟩, ⟨2172717000, nst2⟩, ⟨2183607000, ndt2⟩,
      ⟨2204166600, nst2⟩, ⟨2215056600, ndt2⟩, ⟨2235616200, nst2⟩, ⟨2246506200, ndt2⟩,
      ⟨2267065800, nst2⟩, ⟨2277955800, ndt2⟩, ⟨2298515400, nst2⟩, ⟨2309405400, ndt2⟩,
      ⟨2329965000, nst2⟩, ⟨2341459800, ndt2⟩, ⟨2362019400, nst2⟩, ⟨2372909400, ndt2⟩,
      ⟨2393469000, nst2⟩, ⟨2404359000, ndt2⟩, ⟨2424918600, nst2⟩, ⟨2435808600, ndt2⟩,
      ⟨2456368200, nst2⟩, ⟨2467258200, ndt2⟩, ⟨2487817800, nst2⟩, ⟨2499312600, ndt2⟩,
      ⟨2519872200, nst2⟩, ⟨2530762200, ndt2⟩, ⟨2551321800, nst2⟩, ⟨2562211800, ndt2⟩,
      ⟨2582771400, nst2⟩, ⟨2593661400, ndt2⟩, ⟨2614221000, nst2⟩, ⟨2625111000, ndt2⟩,
      ⟨2645670600, nst2⟩, ⟨2656560600, ndt2⟩, ⟨2677120200, nst2⟩, ⟨2688615000, ndt2⟩,
      ⟨2709174600, nst2⟩, ⟨2720064600, ndt2⟩, ⟨2740624200, nst2⟩, ⟨2751514200, ndt2⟩,
      ⟨2772073800, nst2⟩, ⟨2782963800, ndt2⟩, ⟨2803523400, nst2⟩, ⟨2814413400, ndt2⟩,
      ⟨2834973000, nst2⟩, ⟨2846467800, ndt2⟩, ⟨2867027400, nst2⟩, ⟨2877917400, ndt2⟩,
      ⟨2898477000, nst2⟩, ⟨2909367000, ndt2⟩, ⟨2929926600, nst2⟩, ⟨2940816600, ndt2⟩,
      ⟨2961376200, nst2⟩, ⟨2972266200, ndt2⟩, ⟨2992825800, nst2⟩, ⟨3003715800, ndt2⟩,
      ⟨3024275400, nst2⟩, ⟨3035770200, ndt2⟩, ⟨3056329800, nst2⟩, ⟨3067219800, ndt2⟩,
      ⟨3087779400, nst2⟩, ⟨3098669400, ndt2⟩, ⟨3119229000, nst2⟩, ⟨3130119000, ndt2⟩,
      ⟨3150678600, nst2⟩, ⟨3161568600, ndt2⟩, ⟨3182128200, nst2⟩, ⟨3193018200, ndt2⟩,
      ⟨3213577800, nst2⟩, ⟨3225072600, ndt2⟩, ⟨3245632200, nst2⟩, ⟨3256522200, ndt2⟩,
      ⟨3277081800, nst2⟩, ⟨3287971800, ndt2⟩, ⟨3308531400, nst2⟩, ⟨3319421400, ndt2⟩,
      ⟨3339981000, nst2⟩, ⟨3350871000, ndt2⟩, ⟨3371430600, nst2⟩, ⟨3382925400, ndt2⟩,
      ⟨3403485000, nst2⟩, ⟨3414375000, ndt2⟩, ⟨3434934600, nst2⟩, ⟨3445824600, ndt2⟩,
      ⟨3466384200, nst2⟩, ⟨3477274200, ndt2⟩, ⟨3497833800, nst2⟩, ⟨3508723800, ndt2⟩,
      ⟨3529283400, nst2⟩, ⟨3540173400, ndt2⟩, ⟨3560733000, nst2⟩, ⟨3572227800, ndt2⟩,
      ⟨3592787400, nst2⟩, ⟨3603677400, ndt2⟩, ⟨3624237000, nst2⟩, ⟨3635127000, ndt2⟩,
      ⟨3655686600, nst2⟩, ⟨3666576600, ndt2⟩, ⟨3687136200, nst2⟩, ⟨3698026200, ndt2⟩,
      ⟨3718585800, nst2⟩, ⟨3730080600, ndt2⟩, ⟨3750640200, nst2⟩, ⟨3761530200, ndt2⟩,
      ⟨3782089800, nst2⟩, ⟨3792979800, ndt2⟩, ⟨3813539400, nst2⟩, ⟨3824429400, ndt2⟩,
      ⟨3844989000, nst2⟩, ⟨3855879000, ndt2⟩, ⟨3876438600, nst2⟩, ⟨3887328600, ndt2⟩,
      ⟨3907888200, nst2⟩, ⟨3919383000, ndt2⟩, ⟨3939942600, nst2⟩, ⟨3950832600, ndt2⟩,
      ⟨3971392200, nst2⟩, ⟨3982282200, ndt2⟩, ⟨4002841800, nst2⟩, ⟨4013731800, ndt2⟩,
      ⟨4034291400, nst2⟩, ⟨4045181400, ndt2⟩, ⟨4065741000, nst2⟩, ⟨4076631000, ndt2⟩,
      ⟨4097190600, nst2⟩ ]⟩

-- The time of Sao Paulo.
def saoPaulo : History :=
  let lmt : Reckoning := ⟨.ofSeconds (-11188), "LMT"⟩
  let minus03 : Reckoning := ⟨.ofSeconds (-10800), "-03"⟩
  let minus02 : Reckoning := ⟨.ofSeconds (-7200), "-02"⟩
  ⟨lmt,
    [ ⟨-1767214412, minus03⟩, ⟨-1206957600, minus02⟩, ⟨-1191362400, minus03⟩,
      ⟨-1175374800, minus02⟩, ⟨-1159826400, minus03⟩, ⟨-633819600, minus02⟩,
      ⟨-622069200, minus03⟩, ⟨-602283600, minus02⟩, ⟨-591832800, minus03⟩,
      ⟨-570747600, minus02⟩, ⟨-560210400, minus03⟩, ⟨-539125200, minus02⟩,
      ⟨-531352800, minus03⟩, ⟨-195426000, minus02⟩, ⟨-184197600, minus03⟩,
      ⟨-155163600, minus02⟩, ⟨-150069600, minus03⟩, ⟨-128898000, minus02⟩,
      ⟨-121125600, minus03⟩, ⟨-99954000, minus02⟩, ⟨-89589600, minus03⟩, ⟨-68418000, minus02⟩,
      ⟨-57967200, minus03⟩, ⟨499748400, minus02⟩, ⟨511236000, minus03⟩, ⟨530593200, minus02⟩,
      ⟨540266400, minus03⟩, ⟨562129200, minus02⟩, ⟨571197600, minus03⟩, ⟨592974000, minus02⟩,
      ⟨602042400, minus03⟩, ⟨624423600, minus02⟩, ⟨634701600, minus03⟩, ⟨656478000, minus02⟩,
      ⟨666756000, minus03⟩, ⟨687927600, minus02⟩, ⟨697600800, minus03⟩, ⟨719982000, minus02⟩,
      ⟨728445600, minus03⟩, ⟨750826800, minus02⟩, ⟨761709600, minus03⟩, ⟨782276400, minus02⟩,
      ⟨793159200, minus03⟩, ⟨813726000, minus02⟩, ⟨824004000, minus03⟩, ⟨844570800, minus02⟩,
      ⟨856058400, minus03⟩, ⟨876106800, minus02⟩, ⟨888717600, minus03⟩, ⟨908074800, minus02⟩,
      ⟨919562400, minus03⟩, ⟨938919600, minus02⟩, ⟨951616800, minus03⟩, ⟨970974000, minus02⟩,
      ⟨982461600, minus03⟩, ⟨1003028400, minus02⟩, ⟨1013911200, minus03⟩, ⟨1036292400, minus02⟩,
      ⟨1045360800, minus03⟩, ⟨1066532400, minus02⟩, ⟨1076810400, minus03⟩,
      ⟨1099364400, minus02⟩, ⟨1108864800, minus03⟩, ⟨1129431600, minus02⟩,
      ⟨1140314400, minus03⟩, ⟨1162695600, minus02⟩, ⟨1172368800, minus03⟩,
      ⟨1192330800, minus02⟩, ⟨1203213600, minus03⟩, ⟨1224385200, minus02⟩,
      ⟨1234663200, minus03⟩, ⟨1255834800, minus02⟩, ⟨1266717600, minus03⟩,
      ⟨1287284400, minus02⟩, ⟨1298167200, minus03⟩, ⟨1318734000, minus02⟩,
      ⟨1330221600, minus03⟩, ⟨1350788400, minus02⟩, ⟨1361066400, minus03⟩,
      ⟨1382238000, minus02⟩, ⟨1392516000, minus03⟩, ⟨1413687600, minus02⟩,
      ⟨1424570400, minus03⟩, ⟨1445137200, minus02⟩, ⟨1456020000, minus03⟩,
      ⟨1476586800, minus02⟩, ⟨1487469600, minus03⟩, ⟨1508036400, minus02⟩,
      ⟨1518919200, minus03⟩, ⟨1541300400, minus02⟩, ⟨1550368800, minus03⟩ ]⟩

-- The time of Caracas.
def caracas : History :=
  let lmt : Reckoning := ⟨.ofSeconds (-16064), "LMT"⟩
  let cmt : Reckoning := ⟨.ofSeconds (-16060), "CMT"⟩
  let minus0430 : Reckoning := ⟨.ofSeconds (-16200), "-0430"⟩
  let minus04 : Reckoning := ⟨.ofSeconds (-14400), "-04"⟩
  ⟨lmt,
    [ ⟨-2524505536, cmt⟩, ⟨-1826739140, minus0430⟩, ⟨-157750200, minus04⟩,
      ⟨1197183600, minus0430⟩, ⟨1462086000, minus04⟩ ]⟩

end EventTime.History
