import EventTime.Stamper.Basic

-- A memo whose text belongs to its instant answers as its style writes.
namespace EventTime

namespace Memo

-- The remembered text is the one that the style writes for the remembered instant.
def Sound (memo : Memo) : Prop := memo.entry = memo.style.entry memo.entry.millis

-- The memo with the text of an instant written anew, whatever it held before.
def remembering (memo : Memo) (millis : Int) : Memo :=
  { memo with entry := memo.style.entry millis }

theorem sound_ofStyle (style : Style) (policy : Policy) (seed : Int) :
    (ofStyle style policy seed).Sound := rfl

theorem sound_remembering (memo : Memo) (millis : Int) : (memo.remembering millis).Sound := rfl

@[simp] theorem style_remembering (memo : Memo) (millis : Int) :
    (memo.remembering millis).style = memo.style := rfl

@[simp] theorem millis_remembering (memo : Memo) (millis : Int) :
    (memo.remembering millis).entry.millis = millis := rfl

@[simp] theorem remembering_remembering (memo : Memo) (first second : Int) :
    (memo.remembering first).remembering second = memo.remembering second := rfl

theorem Sound.text_eq {memo : Memo} (hsound : memo.Sound) :
    memo.entry.text = memo.style.write memo.entry.millis :=
  congrArg Entry.text hsound

theorem Sound.remembering_millis {memo : Memo} (hsound : memo.Sound) :
    memo.remembering memo.entry.millis = memo := by
  unfold remembering
  rw [← hsound]

-- A copied text and a written one cannot be told apart.
theorem get_of_sound (memo : Memo) (hsound : memo.Sound) (millis : Int) :
    memo.get millis = (memo.remembering millis, memo.style.write millis) := by
  unfold get
  by_cases hit : memo.entry.millis = millis
  · subst hit
    rw [if_pos rfl, hsound.remembering_millis, hsound.text_eq]
  · rw [if_neg hit]
    rfl

theorem append_of_sound (memo : Memo) (hsound : memo.Sound) (millis : Int) (out : String) :
    memo.append millis out = (memo.remembering millis, out ++ memo.style.write millis) := by
  simp only [append, memo.get_of_sound hsound]

theorem getAll_of_sound (memo : Memo) (hsound : memo.Sound) (instants : List Int) :
    memo.getAll instants =
      (memo.remembering (instants.getLastD memo.entry.millis),
        instants.map memo.style.write) := by
  induction instants generalizing memo with
  | nil => simp only [getAll, List.getLastD_nil, hsound.remembering_millis, List.map_nil]
  | cons millis rest ih =>
      have hrest := ih (memo.remembering millis) (memo.sound_remembering millis)
      simp only [getAll, memo.get_of_sound hsound, hrest, List.getLastD_cons, List.map_cons,
        millis_remembering, remembering_remembering, style_remembering]

end Memo

theorem agreed_replicate (millis : Int) (text : String) (count : Nat) (hcount : 0 < count) :
    agreed millis (List.replicate count text) = .ok text := by
  obtain ⟨rest, rfl⟩ := Nat.exists_eq_add_of_le' hcount
  have hnone : (List.replicate rest text).find? (· ≠ text) = none := by
    rw [List.find?_eq_none]
    intro other hother
    simp [List.eq_of_mem_replicate hother]
  simp only [List.replicate_succ, agreed, hnone]

theorem Stamper.shared_of_sound (stamper : Stamper) (hsound : stamper.memo.Sound)
    (millis : Int) (threads : Nat) :
    stamper.shared millis threads =
      (⟨stamper.memo.remembering millis⟩, .ok (stamper.memo.style.write millis)) := by
  unfold shared
  by_cases hfew : threads ≤ 1
  · rw [if_pos hfew, stamper.memo.get_of_sound hsound]
  · have hlast : (List.replicate threads millis).getLastD stamper.memo.entry.millis = millis := by
      rw [List.getLastD_eq_getLast?, List.getLast?_replicate, if_neg (by omega), Option.getD_some]
    rw [if_neg hfew, stamper.memo.getAll_of_sound hsound, hlast, List.map_replicate]
    simp only [agreed_replicate millis _ threads (by omega)]

end EventTime
