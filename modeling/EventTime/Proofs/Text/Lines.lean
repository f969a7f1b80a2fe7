import EventTime.Proofs.Text.Trimming
import EventTime.Text.Lines
import Mathlib.Data.List.Basic
import Mathlib.Data.List.TakeWhile

-- Streams of bytes and their lines, apart from any way to find them,
-- and the bytes of texts that stand on lines of their own.
namespace EventTime.Lines

-- A stream cut into its lines. One carriage return before a line feed belongs to the line break,
-- and bytes behind the last line feed are a line only if there are any.
inductive Cut : List UInt8 → List (List UInt8) → Prop where
  | nil : Cut [] []
  | rest (line : List UInt8) (hne : line ≠ []) (hfeed : 10 ∉ line) : Cut line [line]
  | feed {later : List UInt8} {lines : List (List UInt8)} (line : List UInt8)
      (hfeed : 10 ∉ line) (hreturn : line.getLast? ≠ some 13) (hlater : Cut later lines) :
      Cut (line ++ 10 :: later) (line :: lines)
  | returnFeed {later : List UInt8} {lines : List (List UInt8)} (line : List UInt8)
      (hfeed : 10 ∉ line) (hlater : Cut later lines) :
      Cut (line ++ 13 :: 10 :: later) (line :: lines)

-- A stream without a line that is still open.
def Complete (bytes : List UInt8) : Prop := bytes = [] ∨ bytes.getLast? = some 10

theorem complete_of_append {later : List UInt8} (line : List UInt8)
    (hcomplete : Complete (line ++ 10 :: later)) : Complete later := by
  rcases hcomplete with hnil | hlast
  · simp at hnil
  · cases later with
    | nil => exact .inl rfl
    | cons byte rest =>
        right
        simpa [List.getLast?_append, List.getLast?_cons_cons] using hlast

theorem dropReturn_of_ne (line : List UInt8) (hreturn : line.getLast? ≠ some 13) :
    dropReturn line = line := if_neg hreturn

theorem dropReturn_concat (line : List UInt8) : dropReturn (line ++ [13]) = line := by
  rw [dropReturn, if_pos List.getLast?_concat, List.dropLast_concat]

theorem ne_feed_of_mem {line : List UInt8} (hfeed : 10 ∉ line) :
    ∀ byte ∈ line, decide (byte ≠ 10) = true := by
  intro byte hbyte
  have hne : byte ≠ 10 := fun heq => hfeed (heq ▸ hbyte)
  exact decide_eq_true hne

theorem split_feed (line later : List UInt8) (hfeed : 10 ∉ line) :
    split (line ++ 10 :: later) = dropReturn line :: split later := by
  have hdrop : (line ++ 10 :: later).dropWhile (· ≠ 10) = 10 :: later := by
    rw [List.dropWhile_append_of_pos (ne_feed_of_mem hfeed)]
    rfl
  have htake : (line ++ 10 :: later).takeWhile (· ≠ 10) = line := by
    rw [List.takeWhile_append_of_pos (ne_feed_of_mem hfeed)]
    simp
  rw [split]
  split
  · rename_i hnone
    cases hdrop.symm.trans hnone
  · rename_i feed rest hsome
    cases hdrop.symm.trans hsome
    rw [htake]

theorem split_rest (line : List UInt8) (hne : line ≠ []) (hfeed : 10 ∉ line) :
    split line = [line] := by
  have hdrop : line.dropWhile (· ≠ 10) = [] :=
    List.dropWhile_eq_nil_iff.mpr (ne_feed_of_mem hfeed)
  rw [split]
  split
  · rw [if_neg (by simpa using hne)]
  · rename_i feed rest hsome
    cases hdrop.symm.trans hsome

theorem Cut.split_eq {bytes : List UInt8} {lines : List (List UInt8)} (hcut : Cut bytes lines) :
    split bytes = lines := by
  induction hcut with
  | nil => simp [split]
  | rest line hne hfeed => exact split_rest line hne hfeed
  | feed line hfeed hreturn hlater ih =>
      rw [split_feed line _ hfeed, dropReturn_of_ne line hreturn, ih]
  | @returnFeed later lines line hfeed hlater ih =>
      have hboth : line ++ 13 :: 10 :: later = (line ++ [13]) ++ 10 :: later := by simp
      rw [hboth, split_feed _ _ (by simpa using hfeed), dropReturn_concat, ih]

theorem cut_feed (line later : List UInt8) (lines : List (List UInt8)) (hfeed : 10 ∉ line)
    (hlater : Cut later lines) : Cut (line ++ 10 :: later) (dropReturn line :: lines) := by
  by_cases hreturn : line.getLast? = some 13
  · obtain ⟨start, rfl⟩ := List.getLast?_eq_some_iff.mp hreturn
    rw [dropReturn_concat, List.append_assoc]
    exact .returnFeed start (fun hmem => hfeed (List.mem_append_left _ hmem)) hlater
  · rw [dropReturn_of_ne line hreturn]
    exact .feed line hfeed hreturn hlater

theorem not_mem_takeWhile (bytes : List UInt8) : 10 ∉ bytes.takeWhile (· ≠ 10) := by
  intro hmem
  simpa using List.all_eq_true.mp List.all_takeWhile 10 hmem

theorem cut_split (bytes : List UInt8) : Cut bytes (split bytes) := by
  fun_induction split bytes with
  | case1 bytes hdrop hempty =>
      rw [List.isEmpty_iff.mp hempty]
      exact .nil
  | case2 bytes hdrop hempty =>
      have hall := List.dropWhile_eq_nil_iff.mp hdrop
      exact .rest bytes (by simpa using hempty) (fun hfeed => by simpa using hall 10 hfeed)
  | case3 bytes feed rest hdrop hlt ih =>
      have hfeed : feed = 10 := by
        have hnot := List.head?_dropWhile_not (· ≠ 10) bytes
        rw [hdrop] at hnot
        simpa using hnot
      have hbytes : bytes = bytes.takeWhile (· ≠ 10) ++ 10 :: rest := by
        rw [hfeed] at hdrop
        rw [← hdrop, List.takeWhile_append_dropWhile]
      conv => lhs; rw [hbytes]
      exact cut_feed _ rest _ (not_mem_takeWhile bytes) ih

theorem cut_iff (bytes : List UInt8) (lines : List (List UInt8)) :
    Cut bytes lines ↔ split bytes = lines :=
  ⟨Cut.split_eq, fun hsplit => hsplit ▸ cut_split bytes⟩

-- Lines that are all closed stay as they are, whatever follows them.
theorem Cut.append {first second : List UInt8} {lines later : List (List UInt8)}
    (hfirst : Cut first lines) (hcomplete : Complete first) (hsecond : Cut second later) :
    Cut (first ++ second) (lines ++ later) := by
  induction hfirst with
  | nil => exact hsecond
  | rest line hne hfeed =>
      rcases hcomplete with rfl | hlast
      · exact absurd rfl hne
      · exact absurd (List.mem_of_getLast? hlast) hfeed
  | feed line hfeed hreturn hlater ih =>
      rw [List.append_assoc]
      exact .feed line hfeed hreturn (ih (complete_of_append line hcomplete))
  | returnFeed line hfeed hlater ih =>
      rw [List.append_assoc]
      exact .returnFeed line hfeed
        (ih (complete_of_append (line ++ [13]) (by simpa using hcomplete)))

theorem encode_eq_flatMap (text : String) :
    encode text = text.toList.flatMap String.utf8EncodeChar := by
  have hbytes := String.toByteArray_ofList (l := text.toList)
  rw [String.ofList_toList] at hbytes
  rw [encode, String.toUTF8, hbytes, List.utf8Encode, List.toList_data_toByteArray]

theorem encode_append (first second : String) :
    encode (first ++ second) = encode first ++ encode second := by
  simp only [encode_eq_flatMap, String.toList_append, List.flatMap_append]

theorem decode?_encode (text : String) : decode? (encode text) = some text := by
  have hbytes : (⟨(encode text).toArray⟩ : ByteArray) = text.toByteArray := by
    rw [encode, String.toUTF8, Array.toArray_toList]
  rw [decode?, hbytes, String.fromUTF8?, dif_pos text.isValidUTF8]
  rfl

-- Bytes of the ASCII range stand for themselves only.
theorem toNat_eq_of_mem_utf8EncodeChar (c : Char) (byte : UInt8) (hascii : byte.toNat < 128)
    (hbyte : byte ∈ String.utf8EncodeChar c) : c.toNat = byte.toNat := by
  unfold String.utf8EncodeChar at hbyte
  have hcode : c.val.toNat = c.toNat := rfl
  simp only [hcode] at hbyte
  by_cases hone : c.toNat ≤ 0x7f
  · rw [if_pos hone] at hbyte
    rw [List.mem_singleton.mp hbyte, UInt8.toNat_ofNat']
    omega
  · -- the bytes of all other characters begin with a bit that is set
    rw [if_neg hone] at hbyte
    exfalso
    split at hbyte
    · simp only [List.mem_cons, List.not_mem_nil, or_false] at hbyte
      rcases hbyte with rfl | rfl <;> rw [UInt8.toNat_ofNat'] at hascii <;> omega
    · split at hbyte
      · simp only [List.mem_cons, List.not_mem_nil, or_false] at hbyte
        rcases hbyte with rfl | rfl | rfl <;> rw [UInt8.toNat_ofNat'] at hascii <;> omega
      · simp only [List.mem_cons, List.not_mem_nil, or_false] at hbyte
        rcases hbyte with rfl | rfl | rfl | rfl <;> rw [UInt8.toNat_ofNat'] at hascii <;> omega

theorem feed_not_mem_encode (text : String) (hfeed : '\n' ∉ text.toList) :
    10 ∉ encode text := by
  rw [encode_eq_flatMap]
  intro hmem
  obtain ⟨c, hc, hbyte⟩ := List.mem_flatMap.mp hmem
  have hcode := toNat_eq_of_mem_utf8EncodeChar c 10 (by decide) hbyte
  have hnewline : c = '\n' := Char.toNat_inj.mp hcode
  exact hfeed (hnewline ▸ hc)

theorem getLast?_encode_ne (text : String)
    (hlast : ∀ c ∈ text.toList.getLast?, Text.isBlank c = false) :
    (encode text).getLast? ≠ some 13 := by
  rw [encode_eq_flatMap]
  cases hreverse : text.toList.getLast? with
  | none => simp [List.getLast?_eq_none_iff.mp hreverse]
  | some c =>
      obtain ⟨start, htext⟩ := List.getLast?_eq_some_iff.mp hreverse
      rw [htext, List.flatMap_append, List.flatMap_singleton,
        List.getLast?_append_of_ne_nil _ String.utf8EncodeChar_ne_nil]
      intro hreturn
      have hcode := toNat_eq_of_mem_utf8EncodeChar c 13 (by decide) (List.mem_of_getLast? hreturn)
      have hblank : c = '\r' := Char.toNat_inj.mp hcode
      exact absurd (hlast c hreverse) (by rw [hblank]; decide)

end EventTime.Lines
