import EventTime.Proofs.Text.Letters
import EventTime.Proofs.Zone.OffsetGrammar

-- Offsets read with places counted in bytes of UTF-8 and with numbers of 32 bits.
-- No cut falls inside a character and no sum leaves the range, so that the same offsets are found.
namespace EventTime

-- What can go wrong with bytes and with numbers of a fixed size.
inductive Slip where
  | insideCharacter (place : Nat)
  | overflow
  deriving DecidableEq, Repr

namespace Text

def bytes (text : List Char) : List UInt8 := text.flatMap String.utf8EncodeChar

-- The parts of a text before and behind a place, if no character lies across the place.
def cut? : Nat → List Char → Option (List Char × List Char)
  | 0, text => some ([], text)
  | _ + 1, [] => none
  | place + 1, c :: rest =>
    if c.utf8Size ≤ place + 1 then
      (cut? (place + 1 - c.utf8Size) rest).map fun (before, behind) => (c :: before, behind)
    else none

def cut (place : Nat) (text : List Char) : Except Slip (List Char × List Char) :=
  match cut? place text with
  | some parts => .ok parts
  | none => .error (.insideCharacter place)

theorem append_eq_of_cut? {place : Nat} {text before behind : List Char}
    (hcut : cut? place text = some (before, behind)) : before ++ behind = text := by
  fun_induction cut? place text generalizing before behind with
  | case1 text =>
      cases hcut
      rfl
  | case2 place => cases hcut
  | case3 place c rest hsize ih =>
      obtain ⟨⟨inner, _⟩, hrest, heq⟩ := Option.map_eq_some_iff.mp hcut
      cases heq
      rw [List.cons_append, ih hrest]
  | case4 place c rest hsize => cases hcut

-- Characters of one byte can be counted instead of their bytes.
theorem cut?_append {before : List Char} (hsize : ∀ c ∈ before, c.utf8Size = 1)
    (behind : List Char) : cut? before.length (before ++ behind) = some (before, behind) := by
  induction before with
  | nil => rw [List.length_nil, List.nil_append, cut?]
  | cons c rest ih =>
      obtain ⟨hc, hrest⟩ := List.forall_mem_cons.mp hsize
      rw [List.cons_append, List.length_cons, cut?, if_pos (by omega), hc, Nat.add_sub_cancel,
        ih hrest, Option.map_some]

theorem cut_append (before : List Char) (hsize : ∀ c ∈ before, c.utf8Size = 1)
    (behind : List Char) : cut before.length (before ++ behind) = .ok (before, behind) := by
  rw [cut, cut?_append hsize behind]

theorem length_bytes {text : List Char} (hsize : ∀ c ∈ text, c.utf8Size = 1) :
    (bytes text).length = text.length := by
  induction text with
  | nil => rfl
  | cons c rest ih =>
      obtain ⟨hc, hrest⟩ := List.forall_mem_cons.mp hsize
      have hbytes := ih hrest
      rw [bytes] at hbytes
      rw [bytes, List.flatMap_cons, List.length_append, hbytes, String.length_utf8EncodeChar, hc,
        List.length_cons, Nat.add_comm]

-- The first byte tells a first character of the ASCII range.
theorem head?_bytes_eq_some_iff (c letter : Char) (rest : List Char) (hascii : letter.toNat < 128) :
    (bytes (c :: rest)).head? = some letter.toNat.toUInt8 ↔ c = letter := by
  have hbyte : letter.toNat.toUInt8.toNat = letter.toNat := by
    rw [Nat.toUInt8_eq, UInt8.toNat_ofNat']
    omega
  constructor
  · intro hhead
    have hmem : letter.toNat.toUInt8 ∈ String.utf8EncodeChar c := by
      have hne : String.utf8EncodeChar c ≠ [] := String.utf8EncodeChar_ne_nil
      rw [bytes, List.flatMap_cons, List.head?_append_of_ne_nil _ hne] at hhead
      exact List.mem_of_head? hhead
    have hcode := Lines.toNat_eq_of_mem_utf8EncodeChar c _ (by rwa [hbyte]) hmem
    exact Char.toNat_inj.mp (hcode.trans hbyte)
  · rintro rfl
    rw [bytes, List.flatMap_cons, String.utf8EncodeChar_eq_singleton (utf8Size_eq_one hascii)]
    rfl

end Text

namespace Numeral

def greatestWord : Nat := 2147483647

-- Reads digits from the left onto a number of 32 bits.
def wordFrom? (total : Nat) : List Char → Option Nat
  | [] => some total
  | c :: rest =>
    let next := 10 * total + digitValue c
    if c.isDigit ∧ next ≤ greatestWord then wordFrom? next rest else none

def word? (digits : List Char) : Option Nat := if digits = [] then none else wordFrom? 0 digits

theorem wordFrom?_eq_some_iff (digits : List Char) (total value : Nat)
    (htotal : total ≤ greatestWord) :
    wordFrom? total digits = some value ↔
      (∀ c ∈ digits, c.isDigit = true) ∧ value = Nat.ofDigitChars 10 digits total ∧
        value ≤ greatestWord := by
  induction digits generalizing total with
  | nil =>
      simp only [wordFrom?, Option.some.injEq, List.not_mem_nil, false_implies, implies_true,
        true_and, Nat.ofDigitChars_nil]
      constructor
      · rintro rfl
        exact ⟨rfl, htotal⟩
      · exact fun hvalue => hvalue.1.symm
  | cons c rest ih =>
      have hlater := le_ofDigitChars rest (10 * total + (c.toNat - '0'.toNat))
      rw [wordFrom?, List.forall_mem_cons, Nat.ofDigitChars_cons, digitValue]
      by_cases hnext : c.isDigit = true ∧ 10 * total + (c.toNat - '0'.toNat) ≤ greatestWord
      · simp only [hnext, if_true, ih _ hnext.2, true_and, and_self]
      · simp only [if_neg hnext, reduceCtorEq, false_iff]
        rintro ⟨⟨hdigit, -⟩, rfl, hvalue⟩
        exact hnext ⟨hdigit, hlater.trans hvalue⟩

theorem word?_eq_some_iff (digits : List Char) (value : Nat) :
    word? digits = some value ↔ natural? digits = some value ∧ value ≤ greatestWord := by
  rw [word?, natural?_eq_some_iff]
  split
  · rename_i hnil
    simp [hnil]
  · rename_i hne
    rw [wordFrom?_eq_some_iff digits 0 value (Nat.zero_le _)]
    simp only [ne_eq, hne, not_false_eq_true, true_and, and_assoc]

end Numeral

namespace Offset

def isDigitOrColon (byte : UInt8) : Bool := (48 ≤ byte.toNat && byte.toNat ≤ 57) || byte.toNat == 58

def scanMark (text : List Char) : Except Slip (List Char) :=
  match Text.cut? 3 text with
  | none => .ok text
  | some (mark, _) =>
    if Text.sameLetters mark ['G', 'M', 'T'] || Text.sameLetters mark ['U', 'T', 'C']
    then (Text.cut 3 text).map (·.2) else .ok text

def scanParts (digits : List Char) : Except Slip (List Char × List Char) :=
  let size := (Text.bytes digits).length
  if ':' ∈ digits then .ok (digits.takeWhile (· ≠ ':'), (digits.dropWhile (· ≠ ':')).drop 1)
  else if size ≤ 2 then .ok (digits, ['0'])
  else Text.cut (size - 2) digits

-- A number, if 32 bits are enough for it.
def checkWord (value : Int) : Except Slip Int :=
  if value.natAbs ≤ Numeral.greatestWord then .ok value else .error .overflow

def scanSeconds (isWest : Bool) (hours minutes : Nat) : Except Slip Int := do
  let hourSeconds ← checkWord (hours * 3600)
  let minuteSeconds ← checkWord (minutes * 60)
  let distance ← checkWord (hourSeconds + minuteSeconds)
  checkWord ((if isWest then -1 else 1) * distance)

def ofSeconds? (seconds : Int) : Option Offset :=
  if h : seconds.natAbs < 86400 then some ⟨seconds, h⟩ else none

def scanNumbers (isWest : Bool) (parts : List Char × List Char) : Except Slip (Option Offset) :=
  match Numeral.word? parts.1, Numeral.word? parts.2 with
  | some hours, some minutes =>
    if 23 < hours ∨ 59 < minutes then .ok none
    else (scanSeconds isWest hours minutes).map ofSeconds?
  | _, _ => .ok none

def scanDigits (isWest : Bool) (digits : List Char) : Except Slip (Option Offset) :=
  if digits = [] ∨ ¬ (Text.bytes digits).all isDigitOrColon then .ok none
  else (scanParts digits).bind (scanNumbers isWest)

def scanSigned (text : List Char) : Except Slip (Option Offset) :=
  if (Text.bytes text).head? = some 43 then
    (Text.cut 1 text).bind fun parts => scanDigits false parts.2
  else if (Text.bytes text).head? = some 45 then
    (Text.cut 1 text).bind fun parts => scanDigits true parts.2
  else .ok none

-- Reads an offset by its bytes.
def scan (text : List Char) : Except Slip (Option Offset) := (scanMark text).bind scanSigned

theorem Mark.utf8Size {mark : List Char} (hmark : Mark mark) : ∀ c ∈ mark, c.utf8Size = 1 := by
  cases hmark with
  | absent => simp
  | gmt g m t hg hm ht =>
      simp only [List.forall_mem_cons]
      refine ⟨?_, ?_, ?_, by simp⟩
      · rcases hg with rfl | rfl <;> rfl
      · rcases hm with rfl | rfl <;> rfl
      · rcases ht with rfl | rfl <;> rfl
  | utc u t c hu ht hc =>
      simp only [List.forall_mem_cons]
      refine ⟨?_, ?_, ?_, by simp⟩
      · rcases hu with rfl | rfl <;> rfl
      · rcases ht with rfl | rfl <;> rfl
      · rcases hc with rfl | rfl <;> rfl

theorem scanMark_of_sameLetters {mark rest : List Char} (hmark : Mark mark)
    (hlength : mark.length = 3)
    (hletters : (Text.sameLetters mark ['G', 'M', 'T'] ||
      Text.sameLetters mark ['U', 'T', 'C']) = true) :
    scanMark (mark ++ rest) = .ok rest := by
  have hcut? := Text.cut?_append hmark.utf8Size rest
  have hcut := Text.cut_append _ hmark.utf8Size rest
  rw [hlength] at hcut? hcut
  simp only [scanMark, hcut?, hletters, if_true, hcut, Except.map]

theorem scanMark_eq (text : List Char) : scanMark text = .ok (dropMark text) := by
  obtain ⟨mark, hmark, htext⟩ := exists_mark text
  cases hmark with
  | gmt g m t hg hm ht =>
      have hletters := (sameLetters_gmt_iff g m t).mpr ⟨hg, hm, ht⟩
      conv => lhs; rw [htext]
      exact scanMark_of_sameLetters (.gmt g m t hg hm ht) rfl (by rw [hletters, Bool.true_or])
  | utc u t c hu ht hc =>
      have hletters := (sameLetters_utc_iff u t c).mpr ⟨hu, ht, hc⟩
      conv => lhs; rw [htext]
      exact scanMark_of_sameLetters (.utc u t c hu ht hc) rfl (by rw [hletters, Bool.or_true])
  | absent =>
      rw [List.nil_append] at htext
      rw [← htext, scanMark]
      split
      · rfl
      · rename_i mark rest hcut
        -- a mark of three letters would have been dropped
        rw [if_neg]
        intro hletters
        have hlength : mark.length = 3 := by
          rcases Bool.or_eq_true_iff.mp hletters with hgmt | hutc
          · simpa using congrArg List.length ((Text.sameLetters_iff _ _).mp hgmt)
          · simpa using congrArg List.length ((Text.sameLetters_iff _ _).mp hutc)
        obtain ⟨a, b, c, rfl⟩ := List.length_eq_three.mp hlength
        have happend := Text.append_eq_of_cut? hcut
        rw [← happend, List.cons_append, List.cons_append, List.cons_append, List.nil_append,
          dropMark, if_pos hletters] at htext
        have hshorter := congrArg List.length htext
        simp only [List.length_cons] at hshorter
        omega

theorem Spells.digitOrColon {digits : List Char} {hours minutes : Nat}
    (hspells : Spells digits hours minutes) :
    digits ≠ [] ∧ ∀ c ∈ digits, c.isDigit = true ∨ c = ':' := by
  cases hspells with
  | hours _ _ hlength hhours =>
      obtain ⟨hne, hall, -⟩ := (Numeral.natural?_eq_some_iff digits hours).mp hhours
      exact ⟨hne, fun c hc => .inl (hall c hc)⟩
  | joined front back _ _ hlength hhours hminutes =>
      obtain ⟨hne, hfront, -⟩ := (Numeral.natural?_eq_some_iff front hours).mp hhours
      obtain ⟨-, hback, -⟩ := (Numeral.natural?_eq_some_iff back minutes).mp hminutes
      refine ⟨List.append_ne_nil_of_left_ne_nil hne _, fun c hc => .inl ?_⟩
      exact (List.mem_append.mp hc).elim (hfront c) (hback c)
  | divided front back _ _ hhours hminutes =>
      obtain ⟨hne, hfront, -⟩ := (Numeral.natural?_eq_some_iff front hours).mp hhours
      obtain ⟨-, hback, -⟩ := (Numeral.natural?_eq_some_iff back minutes).mp hminutes
      refine ⟨List.append_ne_nil_of_left_ne_nil hne _, fun c hc => ?_⟩
      rcases List.mem_append.mp hc with hc | hc
      · exact .inl (hfront c hc)
      · exact (List.mem_cons.mp hc).elim .inr fun hc => .inl (hback c hc)

theorem toNat_lt_of_digitOrColon {c : Char} (hc : c.isDigit = true ∨ c = ':') :
    c.toNat < 128 := by
  rcases hc with hdigit | rfl
  · have hnine := (Char.isDigit_iff_toNat.mp hdigit).2
    have hvalue : '9'.toNat = 57 := rfl
    omega
  · decide

-- The bytes of a text tell whether it has digits and colons only.
theorem all_bytes_iff (text : List Char) :
    (Text.bytes text).all isDigitOrColon = true ↔ ∀ c ∈ text, c.isDigit = true ∨ c = ':' := by
  have hzero : '0'.toNat = 48 := rfl
  have hnine : '9'.toNat = 57 := rfl
  have hcolon : ':'.toNat = 58 := rfl
  have hbyte (byte : UInt8) : isDigitOrColon byte = true ↔
      48 ≤ byte.toNat ∧ byte.toNat ≤ 57 ∨ byte.toNat = 58 := by
    simp [isDigitOrColon]
  simp only [List.all_eq_true, Text.bytes, List.mem_flatMap, hbyte, Char.isDigit_iff_toNat,
    ← Char.toNat_inj]
  constructor
  · intro hall c hc
    obtain ⟨byte, hmem⟩ := List.exists_mem_of_ne_nil _ (String.utf8EncodeChar_ne_nil (c := c))
    have hkind := hall byte ⟨c, hc, hmem⟩
    have hcode := Lines.toNat_eq_of_mem_utf8EncodeChar c byte (by omega) hmem
    omega
  · rintro hall byte ⟨c, hc, hmem⟩
    have hkind := hall c hc
    rw [String.utf8EncodeChar_eq_singleton (Text.utf8Size_eq_one (by omega)),
      List.mem_singleton] at hmem
    have hcode : byte.toNat = c.toNat := by
      have hlt : c.toNat < 128 := by omega
      rw [hmem]
      change c.val.toUInt8.toNat = c.val.toNat
      rw [UInt32.toNat_toUInt8]
      change c.toNat % 256 = c.toNat
      omega
    omega

theorem scanParts_eq {digits : List Char} (hdigits : ∀ c ∈ digits, c.isDigit = true ∨ c = ':') :
    scanParts digits = .ok (divide digits) := by
  have hsize (c : Char) (hc : c ∈ digits) : c.utf8Size = 1 :=
    Text.utf8Size_eq_one (toNat_lt_of_digitOrColon (hdigits c hc))
  rw [scanParts, divide, Text.length_bytes hsize]
  split
  · rfl
  · split
    · rfl
    · have htake : (digits.take (digits.length - 2)).length = digits.length - 2 := by
        rw [List.length_take]
        omega
      have hcut := Text.cut_append (digits.take (digits.length - 2))
        (fun c hc => hsize c (List.mem_of_mem_take hc)) (digits.drop (digits.length - 2))
      rwa [List.take_append_drop, htake] at hcut

theorem checkWord_of_le {value : Int} (hle : value.natAbs ≤ 86340) :
    checkWord value = .ok value := by
  rw [checkWord, if_pos]
  unfold Numeral.greatestWord
  omega

-- Hours and minutes in their bounds are far from the end of the range.
theorem scanSeconds_eq (isWest : Bool) (hours minutes : Nat) (hhours : hours ≤ 23)
    (hminutes : minutes ≤ 59) :
    (scanSeconds isWest hours minutes).map ofSeconds? = .ok (ofHours? isWest hours minutes) := by
  have hhour : checkWord (hours * 3600) = .ok (hours * 3600) := checkWord_of_le (by omega)
  have hminute : checkWord (minutes * 60) = .ok (minutes * 60) := checkWord_of_le (by omega)
  have hdistance : checkWord (hours * 3600 + minutes * 60) = .ok (hours * 3600 + minutes * 60) :=
    checkWord_of_le (by omega)
  have hseconds : scanSeconds isWest hours minutes =
      checkWord ((if isWest then -1 else 1) * (hours * 3600 + minutes * 60)) := by
    simp only [scanSeconds, hhour, hminute, hdistance, bind, Except.bind]
  rw [hseconds, ofHours?, dif_pos ⟨hhours, hminutes⟩]
  cases isWest with
  | false =>
      rw [checkWord_of_le (by simp only [Bool.false_eq_true, if_false]; omega)]
      simp only [Bool.false_eq_true, if_false, Except.map, ofSeconds?]
      rw [dif_pos (by omega)]
      simp only [Except.ok.injEq, Option.some.injEq, Offset.mk.injEq]
      omega
  | true =>
      rw [checkWord_of_le (by simp only [if_true]; omega)]
      simp only [if_true, Except.map, ofSeconds?]
      rw [dif_pos (by omega)]
      simp only [Except.ok.injEq, Option.some.injEq, Offset.mk.injEq]
      omega

-- Numbers that 32 bits are not enough for are out of the bounds of hours and minutes as well.
theorem scanNumbers_eq (isWest : Bool) (digits : List Char) :
    scanNumbers isWest (divide digits) = .ok (ofDigits? isWest digits) := by
  unfold scanNumbers
  split
  · rename_i hours minutes hhours hminutes
    have hread : ofDigits? isWest digits = ofHours? isWest hours minutes := by
      simp only [ofDigits?, ((Numeral.word?_eq_some_iff _ hours).mp hhours).1,
        ((Numeral.word?_eq_some_iff _ minutes).mp hminutes).1]
    rw [hread]
    split
    · rename_i hlarge
      rw [ofHours?, dif_neg (by omega)]
    · rename_i hbounds
      exact scanSeconds_eq isWest hours minutes (by omega) (by omega)
  · rename_i hnone
    cases hsome : ofDigits? isWest digits with
    | none => rfl
    | some offset =>
        obtain ⟨hours, minutes, hspells, hoffset⟩ :=
          (ofDigits?_eq_some_iff isWest digits offset).mp hsome
        obtain ⟨hhours, hminutes, -⟩ := (ofHours?_eq_some_iff isWest _ _ offset).mp hoffset
        obtain ⟨hfront, hback⟩ := hspells.natural?_divide
        have hgreatest : Numeral.greatestWord = 2147483647 := rfl
        have hfirst := (Numeral.word?_eq_some_iff _ hours).mpr ⟨hfront, by omega⟩
        have hsecond := (Numeral.word?_eq_some_iff _ minutes).mpr ⟨hback, by omega⟩
        exact (hnone hours minutes hfirst hsecond).elim

theorem scanDigits_eq (isWest : Bool) (digits : List Char) :
    scanDigits isWest digits = .ok (ofDigits? isWest digits) := by
  unfold scanDigits
  split
  · rename_i hbad
    rw [all_bytes_iff] at hbad
    cases hsome : ofDigits? isWest digits with
    | none => rfl
    | some offset =>
        obtain ⟨hours, minutes, hspells, -⟩ := (ofDigits?_eq_some_iff isWest digits offset).mp hsome
        obtain ⟨hne, hall⟩ := hspells.digitOrColon
        exact (hbad.elim hne fun hnot => hnot hall).elim
  · rename_i hgood
    rw [all_bytes_iff, not_or, not_not] at hgood
    rw [scanParts_eq hgood.2]
    exact scanNumbers_eq isWest digits

theorem scanSigned_cons (c : Char) (digits : List Char) :
    scanSigned (c :: digits) =
      if c = '+' then .ok (ofDigits? false digits)
      else if c = '-' then .ok (ofDigits? true digits)
      else .ok none := by
  have hplus := Text.head?_bytes_eq_some_iff c '+' digits (by decide)
  have hminus := Text.head?_bytes_eq_some_iff c '-' digits (by decide)
  have hcut (sign : Char) (hsign : sign.utf8Size = 1) :
      Text.cut 1 (sign :: digits) = .ok ([sign], digits) :=
    Text.cut_append [sign] (by simpa using hsign) digits
  simp only [scanSigned, show (43 : UInt8) = '+'.toNat.toUInt8 from rfl,
    show (45 : UInt8) = '-'.toNat.toUInt8 from rfl, hplus, hminus]
  split
  · rename_i heq
    rw [heq, hcut '+' rfl]
    exact scanDigits_eq false digits
  · split
    · rename_i heq
      rw [heq, hcut '-' rfl]
      exact scanDigits_eq true digits
    · rfl

-- Bytes lead to the same offsets as characters, and nothing goes wrong with them.
theorem scan_eq (text : List Char) : scan text = .ok (ofText? text) := by
  rw [scan, scanMark_eq, Except.bind, ofText?]
  cases dropMark text with
  | nil => rfl
  | cons c digits =>
      rw [scanSigned_cons]
      by_cases hplus : c = '+'
      · subst hplus
        rfl
      · by_cases hminus : c = '-'
        · subst hminus
          rfl
        · rw [if_neg hplus, if_neg hminus]
          split
          · rename_i heq
            exact absurd (List.cons.inj heq).1 hplus
          · rename_i heq
            exact absurd (List.cons.inj heq).1 hminus
          · rfl

end Offset

end EventTime
