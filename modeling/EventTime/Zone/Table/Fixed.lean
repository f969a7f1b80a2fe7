import EventTime.Zone.Region

namespace EventTime.History

-- Coordinated universal time.
def utc : History :=
  let utc : Reckoning := ⟨.ofSeconds 0, "UTC"⟩
  ⟨utc, []⟩

-- Greenwich mean time.
def gmt : History :=
  let gmt : Reckoning := ⟨.ofSeconds 0, "GMT"⟩
  ⟨gmt, []⟩

-- Five hours west of UTC, all year.
def fiveHoursWest : History :=
  let minus05 : Reckoning := ⟨.ofSeconds (-18000), "-05"⟩
  ⟨minus05, []⟩

-- Fourteen hours east of UTC, all year.
def fourteenHoursEast : History :=
  let plus14 : Reckoning := ⟨.ofSeconds 50400, "+14"⟩
  ⟨plus14, []⟩

end EventTime.History
