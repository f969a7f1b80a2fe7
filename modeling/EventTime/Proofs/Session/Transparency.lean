import EventTime.Proofs.Memo.Sound
import EventTime.Proofs.Race.Progress
import EventTime.Stamper.Session

-- Sessions show no trace of the memo: every text is the one that the style writes anew.
namespace EventTime

namespace Request

-- The instant whose text a request puts into the buffer, if any.
def appended? : Request → Option Int
  | .shared _ _ => none
  | .get _ => none
  | request => request.instant?

-- What a request adds to the buffer when its text is written anew.
def written (style : Style) (request : Request) : String :=
  match request.appended? with
  | some count => style.write count
  | none => ""

-- The buffer after a request whose text is written anew.
def putOn (style : Style) (buffer : String) (request : Request) : String :=
  if request = .clear then "" else buffer ++ request.written style

-- What a request hands out when its text is written anew.
def answer? (style : Style) : Request → Option (Except Failure String)
  | .shared count _ => some (.ok (style.write count))
  | .get count => some (.ok (style.write count))
  | _ => none

-- The last instant whose text the requests need, or `seed` where they need none.
def lastInstant (seed : Int) (requests : List Request) : Int :=
  (requests.filterMap instant?).getLastD seed

@[simp] theorem lastInstant_nil (seed : Int) : lastInstant seed [] = seed := rfl

@[simp] theorem lastInstant_cons (seed : Int) (request : Request) (rest : List Request) :
    lastInstant seed (request :: rest) = lastInstant (request.instant?.getD seed) rest := by
  unfold lastInstant
  cases hinstant : request.instant? with
  | none => rw [List.filterMap_cons_none hinstant, Option.getD_none]
  | some count => rw [List.filterMap_cons_some hinstant, List.getLastD_cons, Option.getD_some]

theorem writes_of_appended?_eq_some (request : Request) (count : Int)
    (happended : request.appended? = some count) :
    request.instant? = some count ∧ request ≠ .clear ∧ ∀ style, request.answer? style = none := by
  cases request <;> simp_all [appended?, instant?, answer?]

theorem written_of_instant?_eq_none (style : Style) (request : Request)
    (hinstant : request.instant? = none) : request.written style = "" := by
  have happended : request.appended? = none := by
    cases request <;> first | exact hinstant | rfl
  simp only [written, happended]

-- Requests that clear nothing put the texts of their instants behind the buffer, in their order.
theorem foldl_putOn (style : Style) (buffer : String) (requests : List Request)
    (hclear : clear ∉ requests) :
    requests.foldl (putOn style) buffer =
      buffer ++ String.join ((requests.filterMap appended?).map style.write) := by
  induction requests generalizing buffer with
  | nil =>
      simp only [List.foldl_nil, List.filterMap_nil, List.map_nil, String.join_nil,
        String.append_empty]
  | cons request rest ih =>
      obtain ⟨hfirst, hrest⟩ := List.ne_and_not_mem_of_not_mem_cons hclear
      rw [List.foldl_cons, ih _ hrest, putOn, if_neg hfirst.symm, String.append_assoc]
      cases happended : request.appended? with
      | none =>
          simp only [List.filterMap_cons_none happended, written, happended, String.empty_append]
      | some count =>
          simp only [List.filterMap_cons_some happended, written, happended, List.map_cons,
            String.join_cons]

end Request

namespace Session

-- The session after a request whose text is written anew.
def plain (session : Session) (request : Request) : Session :=
  let memo := session.stamper.memo
  { stamper := ⟨memo.remembering (request.instant?.getD memo.entry.millis)⟩
    buffer := request.putOn memo.style session.buffer }

theorem sound_plain (session : Session) (request : Request) :
    (session.plain request).stamper.memo.Sound := rfl

theorem plain_of_instant?_eq_none (session : Session) (request : Request)
    (hsound : session.stamper.memo.Sound) (hinstant : request.instant? = none)
    (hclear : request ≠ .clear) : session.plain request = session := by
  simp only [plain, hinstant, Option.getD_none, hsound.remembering_millis, Request.putOn,
    if_neg hclear, request.written_of_instant?_eq_none _ hinstant, String.append_empty]

theorem writing_of_sound (session : Session) (hsound : session.stamper.memo.Sound)
    (request : Request) (count : Int) (happended : request.appended? = some count) :
    writing (session.stamper.write count session.buffer) =
      (session.plain request, request.answer? session.stamper.memo.style) := by
  obtain ⟨hinstant, hclear, hanswer⟩ := request.writes_of_appended?_eq_some count happended
  simp only [writing, Stamper.write, session.stamper.memo.append_of_sound hsound, plain, hinstant,
    Option.getD_some, Request.putOn, if_neg hclear, Request.written, happended, hanswer]

theorem unchanged_of_sound (session : Session) (hsound : session.stamper.memo.Sound)
    (request : Request) (hinstant : request.instant? = none) (hclear : request ≠ .clear) :
    (session, none) = (session.plain request, request.answer? session.stamper.memo.style) := by
  rw [session.plain_of_instant?_eq_none request hsound hinstant hclear]
  cases request <;> simp_all [Request.answer?, Request.instant?]

-- One request on a sound memo does what it does without one.
theorem perform_of_sound (session : Session) (hsound : session.stamper.memo.Sound)
    (request : Request) :
    session.perform request =
      (session.plain request, request.answer? session.stamper.memo.style) := by
  cases request with
  | millis count => exact session.writing_of_sound hsound (.millis count) count rfl
  | event logged => exact session.writing_of_sound hsound (.event logged) logged.millis rfl
  | moment date => exact session.writing_of_sound hsound (.moment date) date.millis rfl
  | value given =>
      cases hmillis : given.millis? with
      | none =>
          rw [← session.unchanged_of_sound hsound (.value given) hmillis nofun]
          simp only [perform, Stamper.writeValue, hmillis, writing]
      | some count =>
          rw [← session.writing_of_sound hsound (.value given) count hmillis]
          simp only [perform, Stamper.writeValue, hmillis]
  | first values =>
      cases hmillis : values.findSome? Value.millis? with
      | none =>
          rw [← session.unchanged_of_sound hsound (.first values) hmillis nofun]
          simp only [perform, Stamper.writeFirst, hmillis, writing]
      | some count =>
          rw [← session.writing_of_sound hsound (.first values) count hmillis]
          simp only [perform, Stamper.writeFirst, hmillis]
  | shared count threads =>
      simp only [perform, session.stamper.shared_of_sound hsound, plain, Request.putOn,
        Request.written, Request.appended?, String.append_empty]
      rfl
  | get count =>
      simp only [perform, session.stamper.memo.get_of_sound hsound, plain, Request.putOn,
        Request.written, Request.appended?, String.append_empty]
      rfl
  | append count => exact session.writing_of_sound hsound (.append count) count rfl
  | clear =>
      simp only [perform, plain, Request.instant?, Option.getD_none, hsound.remembering_millis,
        Request.putOn, if_true, Request.answer?]

theorem perform_of_instant?_eq_none (session : Session) (hsound : session.stamper.memo.Sound)
    (request : Request) (hinstant : request.instant? = none) (hclear : request ≠ .clear) :
    session.perform request = (session, none) := by
  rw [session.perform_of_sound hsound, ← session.unchanged_of_sound hsound _ hinstant hclear]

theorem performAll_cons (session : Session) (request : Request) (rest : List Request)
    (hsound : session.stamper.memo.Sound) :
    session.performAll (request :: rest) = (session.plain request).performAll rest := by
  simp only [performAll, List.foldl_cons, session.perform_of_sound hsound]

theorem memo_performAll (session : Session) (hsound : session.stamper.memo.Sound)
    (requests : List Request) :
    (session.performAll requests).stamper.memo =
      session.stamper.memo.remembering
        (Request.lastInstant session.stamper.memo.entry.millis requests) := by
  induction requests generalizing session with
  | nil => rw [Request.lastInstant_nil, hsound.remembering_millis, performAll, List.foldl_nil]
  | cons request rest ih =>
      rw [session.performAll_cons request rest hsound,
        ih (session.plain request) (session.sound_plain request), Request.lastInstant_cons]
      rfl

theorem buffer_performAll (session : Session) (hsound : session.stamper.memo.Sound)
    (requests : List Request) :
    (session.performAll requests).buffer =
      requests.foldl (Request.putOn session.stamper.memo.style) session.buffer := by
  induction requests generalizing session with
  | nil => rfl
  | cons request rest ih =>
      rw [session.performAll_cons request rest hsound,
        ih (session.plain request) (session.sound_plain request)]
      rfl

theorem perform_first_append (session : Session) (before : List Value) (value : Value)
    (after : List Value) (count : Int) (hbefore : ∀ other ∈ before, other.millis? = none)
    (hvalue : value.millis? = some count) :
    session.perform (.first (before ++ value :: after)) = session.perform (.millis count) := by
  have hfind : (before ++ value :: after).findSome? Value.millis? = some count := by
    rw [List.findSome?_append, List.findSome?_eq_none_iff.mpr hbefore, Option.none_or,
      List.findSome?_cons_of_isSome (by simp [hvalue]), hvalue]
  simp only [perform, Stamper.writeFirst, hfind]

def start (options : List String) (policy : Policy) (seed : Int) (buffer : String) : Session :=
  ⟨(Stamper.ofList options policy seed).1, buffer⟩

section Start

variable (options : List String) (policy : Policy) (seed : Int) (buffer : String)
variable (requests : List Request)

theorem memo_performAll_start :
    ((start options policy seed buffer).performAll requests).stamper.memo =
      ⟨(Style.ofSelection (Selection.ofList options)).1, policy,
        (Style.ofSelection (Selection.ofList options)).1.entry
          (Request.lastInstant seed requests)⟩ :=
  memo_performAll _ (Memo.sound_ofStyle _ policy seed) requests

theorem buffer_performAll_start :
    ((start options policy seed buffer).performAll requests).buffer =
      requests.foldl (Request.putOn (Style.ofSelection (Selection.ofList options)).1) buffer :=
  buffer_performAll _ (Memo.sound_ofStyle _ policy seed) requests

theorem sound_performAll_start :
    ((start options policy seed buffer).performAll requests).stamper.memo.Sound := by
  rw [memo_performAll_start]
  rfl

theorem perform_performAll_start (request : Request) :
    ((start options policy seed buffer).performAll requests).perform request =
      (((start options policy seed buffer).performAll requests).plain request,
        request.answer? (Style.ofSelection (Selection.ofList options)).1) := by
  rw [perform_of_sound _ (sound_performAll_start options policy seed buffer requests) request,
    memo_performAll_start]

end Start

-- Over any run, a session writes and hands out what the style writes anew for each instant.
-- The memo shows in its entry alone, which holds the last instant with its own text.
-- A value that is no date changes nothing, and the policy makes no difference: a lone call
-- that goes through all its steps on the memo wins its swap and answers the same.
theorem performAll_transparent (options : List String) (policy : Policy) (seed : Int)
    (buffer : String) (requests : List Request) :
    let style := (Style.ofSelection (Selection.ofList options)).1
    let session := (start options policy seed buffer).performAll requests
    (Request.clear ∉ requests → session.buffer =
      buffer ++ String.join ((requests.filterMap Request.appended?).map style.write)) ∧
    session.stamper.memo =
      ⟨style, policy, style.entry (Request.lastInstant seed requests)⟩ ∧
    (∀ request, (session.perform request).2 = request.answer? style) ∧
    (∀ request, request ≠ .clear →
      (session.perform request).1.buffer = session.buffer ++ request.written style) ∧
    (∀ value : Value, value.millis? = none →
      session.perform (.value value) = (session, none)) ∧
    (∀ values : List Value, (∀ value ∈ values, value.millis? = none) →
      session.perform (.first values) = (session, none)) ∧
    (∀ (before : List Value) (value : Value) (after : List Value) (count : Int),
      (∀ other ∈ before, other.millis? = none) → value.millis? = some count →
      session.perform (.first (before ++ value :: after)) = session.perform (.millis count)) ∧
    (∀ count, let race := (Race.start session.stamper.memo [count]).run (List.replicate 6 0)
      race.calls.map Call.answer? = [some (style.write count)] ∧
      race.slot.entry = style.entry count) ∧
    ∀ other, let twin := (start options other seed buffer).performAll requests
      twin.buffer = session.buffer ∧
      twin.stamper.memo.entry = session.stamper.memo.entry ∧
      ∀ request, (twin.perform request).2 = (session.perform request).2 := by
  intro style session
  have hmemo := memo_performAll_start options policy seed buffer requests
  have hsound := sound_performAll_start options policy seed buffer requests
  have hperform := perform_performAll_start options policy seed buffer requests
  refine ⟨?_, hmemo, ?_, ?_, ?_, ?_, session.perform_first_append, ?_, ?_⟩
  · intro hclear
    rw [buffer_performAll_start options policy seed buffer requests,
      Request.foldl_putOn style buffer requests hclear]
  · intro request
    rw [hperform request]
  · intro request hclear
    rw [hperform request]
    simp only [plain, Request.putOn, if_neg hclear, hmemo, session, style]
  · intro value hvalue
    exact session.perform_of_instant?_eq_none hsound (.value value) hvalue nofun
  · intro values hvalues
    exact session.perform_of_instant?_eq_none hsound (.first values)
      (List.findSome?_eq_none_iff.mpr hvalues) nofun
  · -- with the memo sound, a copied text and a written one are the same answer
    intro count
    have halone := Race.run_alone session.stamper.memo count
    rw [Memo.get_of_sound _ hsound, hmemo] at halone
    rw [hmemo]
    exact halone
  · intro other twin
    refine ⟨?_, ?_, fun request => ?_⟩
    · rw [buffer_performAll_start, buffer_performAll_start]
    · rw [memo_performAll_start, memo_performAll_start]
    · rw [perform_performAll_start, perform_performAll_start]

-- A run with dates and other values, in which texts are copied as well as written.
theorem performAll_transparent_epochMillis :
    let date : Value := .moment (.zoned ⟨1, 0, .host⟩)
    let requests : List Request :=
      [.millis 5, .millis 5, .value (.text "5"), .first [.unit, date], .shared 7 3, .append 5]
    let session := (start ["UNIX_MILLIS"] .installed 42 "[").performAll requests
    Request.clear ∉ requests ∧ session.buffer = "[5510005" ∧
      session.stamper.memo.entry = ⟨5, "5"⟩ ∧
      (session.perform (.shared 8 2)).2 = some (.ok "8") ∧
      (session.perform (.event ⟨9⟩)).1.buffer = "[55100059" ∧
      session.perform (.value (.number 3)) = (session, none) ∧
      session.perform (.first [.unit, .number 3]) = (session, none) ∧
      session.perform (.first [.unit, date, .unit]) = session.perform (.millis 1000) := by
  intro date requests session
  have hclear : Request.clear ∉ requests := by decide
  have height : (Style.ofSelection (Selection.ofList ["UNIX_MILLIS"])).1.write 8 = "8" := by
    decide +kernel
  obtain ⟨hbuffer, hmemo, hanswer, hwritten, hvalue, hnone, hfirst, -⟩ :=
    performAll_transparent ["UNIX_MILLIS"] .installed 42 "[" requests
  have hfilled : session.buffer = "[5510005" := by
    rw [hbuffer hclear]
    decide +kernel
  refine ⟨hclear, hfilled, ?_, ?_, ?_, ?_, ?_, ?_⟩
  · rw [hmemo]
    decide +kernel
  · rw [hanswer (.shared 8 2), Request.answer?, height]
  · rw [hwritten (.event ⟨9⟩) (by decide), hfilled]
    decide +kernel
  · exact hvalue (.number 3) rfl
  · exact hnone [.unit, .number 3] (by decide)
  · exact hfirst [.unit] date [.unit] 1000 (by decide) (by decide)

end Session

end EventTime
