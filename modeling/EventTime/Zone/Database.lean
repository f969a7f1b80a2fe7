import EventTime.Zone.Table.Africa
import EventTime.Zone.Table.America
import EventTime.Zone.Table.Asia
import EventTime.Zone.Table.Australia
import EventTime.Zone.Table.Europe
import EventTime.Zone.Table.Fixed
import EventTime.Zone.Table.Pacific

namespace EventTime.Region

-- The places that can be named. Some have several ids.
def database : List Region :=
  [ ⟨"UTC", .utc⟩,
    ⟨"UCT", .utc⟩,
    ⟨"Zulu", .utc⟩,
    ⟨"Etc/UTC", .utc⟩,
    ⟨"GMT", .gmt⟩,
    ⟨"GMT0", .gmt⟩,
    ⟨"GMT+0", .gmt⟩,
    ⟨"GMT-0", .gmt⟩,
    ⟨"Etc/GMT", .gmt⟩,
    ⟨"Etc/GMT+5", .fiveHoursWest⟩,
    ⟨"Etc/GMT-14", .fourteenHoursEast⟩,
    ⟨"EST", .panama⟩,
    ⟨"America/Panama", .panama⟩,
    ⟨"EST5EDT", .newYork⟩,
    ⟨"US/Eastern", .newYork⟩,
    ⟨"America/New_York", .newYork⟩,
    ⟨"CET", .amsterdam⟩,
    ⟨"Europe/Amsterdam", .amsterdam⟩,
    ⟨"Europe/Berlin", .berlin⟩,
    ⟨"Europe/London", .london⟩,
    ⟨"Europe/Dublin", .dublin⟩,
    ⟨"Europe/Paris", .paris⟩,
    ⟨"Europe/Lisbon", .lisbon⟩,
    ⟨"Europe/Moscow", .moscow⟩,
    ⟨"America/St_Johns", .stJohns⟩,
    ⟨"America/Sao_Paulo", .saoPaulo⟩,
    ⟨"America/Caracas", .caracas⟩,
    ⟨"Asia/Tokyo", .tokyo⟩,
    ⟨"Asia/Kolkata", .calcutta⟩,
    ⟨"Asia/Calcutta", .calcutta⟩,
    ⟨"Asia/Kathmandu", .kathmandu⟩,
    ⟨"Asia/Tehran", .tehran⟩,
    ⟨"Asia/Pyongyang", .pyongyang⟩,
    ⟨"Asia/Manila", .manila⟩,
    ⟨"Australia/Lord_Howe", .lordHowe⟩,
    ⟨"Australia/Eucla", .eucla⟩,
    ⟨"Australia/Sydney", .sydney⟩,
    ⟨"Pacific/Apia", .apia⟩,
    ⟨"Pacific/Kiritimati", .kiritimati⟩,
    ⟨"Pacific/Chatham", .chatham⟩,
    ⟨"Pacific/Kwajalein", .kwajalein⟩,
    ⟨"Africa/Casablanca", .casablanca⟩,
    ⟨"Africa/Monrovia", .monrovia⟩,
    ⟨"Africa/Abidjan", .abidjan⟩,
    ⟨"Antarctica/Troll", .troll⟩ ]

-- The place with exactly that id.
def find? (id : String) : Option Region := database.find? fun region => region.id = id

end EventTime.Region
