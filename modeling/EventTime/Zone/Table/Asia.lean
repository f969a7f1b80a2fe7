import EventTime.Zone.Region

namespace EventTime.History

-- The time of Tokyo.
def tokyo : History :=
  let lmt : Reckoning := ⟨.ofSeconds 33539, "LMT"⟩
  let jst : Reckoning := ⟨.ofSeconds 32400, "JST"⟩
  let jdt : Reckoning := ⟨.ofSeconds 36000, "JDT"⟩
  ⟨lmt,
    [ ⟨-2587712400, jst⟩, ⟨-683802000, jdt⟩, ⟨-672310800, jst⟩, ⟨-654771600, jdt⟩,
      ⟨-640861200, jst⟩, ⟨-620298000, jdt⟩, ⟨-609411600, jst⟩, ⟨-588848400, jdt⟩,
      ⟨-577962000, jst⟩ ]⟩

-- The time of Calcutta.
def calcutta : History :=
  let lmt : Reckoning := ⟨.ofSeconds 21208, "LMT"⟩
  let hmt : Reckoning := ⟨.ofSeconds 21200, "HMT"⟩
  let mmt : Reckoning := ⟨.ofSeconds 19270, "MMT"⟩
  let ist : Reckoning := ⟨.ofSeconds 19800, "IST"⟩
  let plus0630 : Reckoning := ⟨.ofSeconds 23400, "+0630"⟩
  ⟨lmt,
    [ ⟨-3645237208, hmt⟩, ⟨-3155694800, mmt⟩, ⟨-2019705670, ist⟩, ⟨-891581400, plus0630⟩,
      ⟨-872058600, ist⟩, ⟨-862637400, plus0630⟩, ⟨-764145000, ist⟩ ]⟩

-- The time of Kathmandu.
def kathmandu : History :=
  let lmt : Reckoning := ⟨.ofSeconds 20476, "LMT"⟩
  let plus0530 : Reckoning := ⟨.ofSeconds 19800, "+0530"⟩
  let plus0545 : Reckoning := ⟨.ofSeconds 20700, "+0545"⟩
  ⟨lmt,
    [ ⟨-1577943676, plus0530⟩, ⟨504901800, plus0545⟩ ]⟩

-- The time of Tehran.
def tehran : History :=
  let lmt : Reckoning := ⟨.ofSeconds 12344, "LMT"⟩
  let tmt : Reckoning := ⟨.ofSeconds 12344, "TMT"⟩
  let plus0330 : Reckoning := ⟨.ofSeconds 12600, "+0330"⟩
  let plus0430 : Reckoning := ⟨.ofSeconds 16200, "+0430"⟩
  let plus04 : Reckoning := ⟨.ofSeconds 14400, "+04"⟩
  let plus05 : Reckoning := ⟨.ofSeconds 18000, "+05"⟩
  ⟨lmt,
    [ ⟨-1704165944, tmt⟩, ⟨-1090466744, plus0330⟩, ⟨227820600, plus0430⟩, ⟨246223800, plus04⟩,
      ⟨259617600, plus05⟩, ⟨271108800, plus04⟩, ⟨279576000, plus0330⟩, ⟨296598600, plus0430⟩,
      ⟨306531000, plus0330⟩, ⟨322432200, plus0430⟩, ⟨338499000, plus0330⟩,
      ⟨673216200, plus0430⟩, ⟨685481400, plus0330⟩, ⟨701209800, plus0430⟩,
      ⟨717103800, plus0330⟩, ⟨732745800, plus0430⟩, ⟨748639800, plus0330⟩,
      ⟨764281800, plus0430⟩, ⟨780175800, plus0330⟩, ⟨795817800, plus0430⟩,
      ⟨811711800, plus0330⟩, ⟨827353800, plus0430⟩, ⟨843247800, plus0330⟩,
      ⟨858976200, plus0430⟩, ⟨874870200, plus0330⟩, ⟨890512200, plus0430⟩,
      ⟨906406200, plus0330⟩, ⟨922048200, plus0430⟩, ⟨937942200, plus0330⟩,
      ⟨953584200, plus0430⟩, ⟨969478200, plus0330⟩, ⟨985206600, plus0430⟩,
      ⟨1001100600, plus0330⟩, ⟨1016742600, plus0430⟩, ⟨1032636600, plus0330⟩,
      ⟨1048278600, plus0430⟩, ⟨1064172600, plus0330⟩, ⟨1079814600, plus0430⟩,
      ⟨1095708600, plus0330⟩, ⟨1111437000, plus0430⟩, ⟨1127331000, plus0330⟩,
      ⟨1206045000, plus0430⟩, ⟨1221939000, plus0330⟩, ⟨1237667400, plus0430⟩,
      ⟨1253561400, plus0330⟩, ⟨1269203400, plus0430⟩, ⟨1285097400, plus0330⟩,
      ⟨1300739400, plus0430⟩, ⟨1316633400, plus0330⟩, ⟨1332275400, plus0430⟩,
      ⟨1348169400, plus0330⟩, ⟨1363897800, plus0430⟩, ⟨1379791800, plus0330⟩,
      ⟨1395433800, plus0430⟩, ⟨1411327800, plus0330⟩, ⟨1426969800, plus0430⟩,
      ⟨1442863800, plus0330⟩, ⟨1458505800, plus0430⟩, ⟨1474399800, plus0330⟩,
      ⟨1490128200, plus0430⟩, ⟨1506022200, plus0330⟩, ⟨1521664200, plus0430⟩,
      ⟨1537558200, plus0330⟩, ⟨1553200200, plus0430⟩, ⟨1569094200, plus0330⟩,
      ⟨1584736200, plus0430⟩, ⟨1600630200, plus0330⟩, ⟨1616358600, plus0430⟩,
      ⟨1632252600, plus0330⟩, ⟨1647894600, plus0430⟩, ⟨1663788600, plus0330⟩ ]⟩

-- The time of Pyongyang.
def pyongyang : History :=
  let lmt : Reckoning := ⟨.ofSeconds 30180, "LMT"⟩
  let kst : Reckoning := ⟨.ofSeconds 30600, "KST"⟩
  let jst : Reckoning := ⟨.ofSeconds 32400, "JST"⟩
  let kst2 : Reckoning := ⟨.ofSeconds 32400, "KST"⟩
  ⟨lmt,
    [ ⟨-1948782180, kst⟩, ⟨-1830414600, jst⟩, ⟨-768646800, kst2⟩, ⟨1439564400, kst⟩,
      ⟨1525446000, kst2⟩ ]⟩

-- The time of Manila.
def manila : History :=
  let lmt : Reckoning := ⟨.ofSeconds (-57368), "LMT"⟩
  let lmt2 : Reckoning := ⟨.ofSeconds 29032, "LMT"⟩
  let pst : Reckoning := ⟨.ofSeconds 28800, "PST"⟩
  let pdt : Reckoning := ⟨.ofSeconds 32400, "PDT"⟩
  let jst : Reckoning := ⟨.ofSeconds 32400, "JST"⟩
  ⟨lmt,
    [ ⟨-3944621032, lmt2⟩, ⟨-2219083200, pst⟩, ⟨-1046678400, pdt⟩, ⟨-1040115600, pst⟩,
      ⟨-885024000, pdt⟩, ⟨-880016400, jst⟩, ⟨-783594000, pdt⟩, ⟨-760093200, pst⟩,
      ⟨-496224000, pdt⟩, ⟨-491562000, pst⟩, ⟨228326400, pdt⟩, ⟨243702000, pst⟩,
      ⟨643219200, pdt⟩, ⟨649177200, pst⟩ ]⟩

end EventTime.History
