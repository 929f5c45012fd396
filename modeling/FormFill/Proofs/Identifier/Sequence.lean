import FormFill.Proofs.Identifier.LeadingInt
import FormFill.Proofs.Identifier.Next

namespace FormFill

/-- A call for the identifier of a record. -/
structure Request where
  source : IdentifierSource
  record : Json

/-- What a call has given, and the files that it has left. -/
structure Served where
  assigned : Assigned
  files : Files

/-- The last identifier among several, if there is any. -/
def mostRecent? (values : List String) : Option String :=
  (values.filter (· ≠ "")).getLast?

theorem mostRecent?_cons (value : String) (values : List String) :
    mostRecent? (value :: values) = (mostRecent? values).or (if value = "" then none else some value) := by
  unfold mostRecent?
  by_cases empty : value = ""
  · simp [empty]
  · rw [List.filter_cons_of_pos (by simpa using empty), List.getLast?_cons, if_neg empty]
    cases (values.filter (· ≠ "")).getLast? <;> rfl

theorem mostRecent?_concat (values : List String) (value : String) :
    mostRecent? (values ++ [value]) = if value = "" then mostRecent? values else some value := by
  unfold mostRecent?
  by_cases empty : value = ""
  · simp [List.filter_append, empty]
  · simp [List.filter_append, empty]

namespace Request

open Act

def existing? (request : Request) : Option Json :=
  request.source.existing? request.record

/-- The call is about the store, and what the record brings along is not shown as nothing. -/
structure Usable (store : IdentifierStore) (request : Request) : Prop where
  shared : request.source.store = store
  shown : ∀ existing, request.existing? = some existing → Record.textOf existing ≠ []

/-- A call has been answered where `recent` was the identifier in use. -/
structure Answered (request : Request) (recent : String) (given : Assigned) : Prop where
  carried : ∀ existing, request.existing? = some existing →
    given = ⟨String.ofList (Record.textOf existing), none⟩
  counted : request.existing? = none → ∀ n, leadingInt? recent.toList = some n →
    given.value = String.ofList (intText (n + 1))
  started : request.existing? = none → leadingInt? recent.toList = none →
    given.value = request.source.start.getD ""

/-- Why a call cannot be answered where `recent` was the identifier in use: a number would be too long, or the
    identifier has no UTF-8 form. -/
def failure? (request : Request) (halves : Text.Halves) (recent : String) : Option Failure :=
  match request.existing? with
  | some existing =>
    match Record.overlong? existing with
    | some fault => some (.numeral fault)
    | none => (halves.fault? (Record.textOf existing)).map .unencodable
  | none =>
    match request.source.successor recent with
    | .error fault => some (.numeral fault)
    | .ok value => (halves.fault? value.toList).map .unencodable

def serve : List Request → Act (List Served)
  | [] => return []
  | request :: rest => do
    let assigned ← request.source.next request.record
    let files := (← get).files
    return ⟨assigned, files⟩ :: (← serve rest)

end Request

namespace IdentifierStore

open Act

/-- The identifier in use after some have been given out, beginning with what was stored at the start. -/
def recent (store : IdentifierStore) (start : Files) (values : List String) : String :=
  (mostRecent? values).getD (store.textIn start)

/-- The store has kept up with the identifiers that have been given out. -/
structure InStep (store : IdentifierStore) (start files : Files) (values : List String) : Prop where
  readable : store.Readable files
  writable : store.Writable files
  system : start.OneSystem files
  untouched : mostRecent? values = none → files = start
  holds : ∀ value, mostRecent? values = some value → store.Holds files value

/-- What a call leaves that fails: the store as it was, or an empty one if the identifier had no UTF-8 form. -/
structure Left (store : IdentifierStore) (start files : Files) (values : List String) (failure : Failure) : Prop where
  kept : ∀ fault, failure = .numeral fault → store.InStep start files values
  emptied : ∀ fault, failure = .unencodable fault → store.Holds files ""

variable {store : IdentifierStore} {start files : Files} {values : List String}

theorem InStep.nil (readable : store.Readable start) (writable : store.Writable start) :
    store.InStep start start [] :=
  ⟨readable, writable, .refl start, fun _ => rfl, nofun⟩

/-- The stored text counts on from the identifier in use, though blanks and line ends may differ. -/
theorem InStep.counts (inStep : store.InStep start files values) :
    leadingDigits (store.textIn files).toList = leadingDigits (store.recent start values).toList := by
  unfold recent
  cases last : mostRecent? values with
  | none => rw [inStep.untouched last, Option.getD_none]
  | some value =>
    rw [(inStep.holds value last).textIn, String.toList_ofList, leadingDigits_stored, Option.getD_some]

theorem InStep.stored (inStep : store.InStep start files values) {value : String} (nonempty : value ≠ "")
    (encodable : start.halves.fault? value.toList = none) :
    store.InStep start (store.put value.toList files).1 (values ++ [value]) := by
  have last : mostRecent? (values ++ [value]) = some value := by
    rw [mostRecent?_concat, if_neg nonempty]
  refine ⟨inStep.readable.put _, inStep.writable.put _, inStep.system.trans (store.put_oneSystem _ files), ?_, ?_⟩
  · rw [last]
    exact nofun
  · intro other same
    rw [last] at same
    cases same
    exact inStep.writable.holds value (inStep.system.halves ▸ encodable)

theorem InStep.skipped (inStep : store.InStep start files values) :
    store.InStep start files (values ++ [""]) := by
  have last : mostRecent? (values ++ [""]) = mostRecent? values := by
    rw [mostRecent?_concat, if_pos rfl]
  exact ⟨inStep.readable, inStep.writable, inStep.system, last ▸ inStep.untouched, last ▸ inStep.holds⟩

/-- A call is answered, or it fails for the reason there is. -/
inductive Step (store : IdentifierStore) (start files : Files) (values : List String) (request : Request) : Prop where
  | answered {given : Assigned} (assigns : request.source.assigned request.record files = .ok given)
      (unfailing : request.failure? start.halves (store.recent start values) = none)
      (answered : request.Answered (store.recent start values) given)
      (onward : store.InStep start (request.source.filesAfter request.record files) (values ++ [given.value]))
  | failed {failure : Failure} (failed : request.source.assigned request.record files = .error failure)
      (reason : request.failure? start.halves (store.recent start values) = some failure)
      (left : store.Left start (request.source.filesAfter request.record files) values failure)

/-- A call for which no identifier is due changes nothing. -/
theorem InStep.undue {request : Request} (inStep : store.InStep start files values) (fault : NumeralFault)
    (undue : request.source.due request.record files = .error (.numeral fault))
    (reason : request.failure? start.halves (store.recent start values) = some (.numeral fault)) :
    store.Step start files values request := by
  refine .failed (by rw [IdentifierSource.assigned, undue]) reason ⟨fun _ _ => ?_, nofun⟩
  rw [IdentifierSource.filesAfter, undue]
  exact inStep

theorem InStep.due {request : Request} {given : Assigned} (inStep : store.InStep start files values)
    (shared : request.source.store = store) (dues : request.source.due request.record files = .ok given)
    (nonempty : given.value ≠ "")
    (reason : request.failure? start.halves (store.recent start values) =
      (start.halves.fault? given.value.toList).map .unencodable)
    (answered : request.Answered (store.recent start values) given) : store.Step start files values request := by
  subst shared
  have stored : request.source.stores request.record given = true :=
    IdentifierSource.stores_of_value request.record nonempty
  have after := IdentifierSource.filesAfter_of_stores dues stored
  cases encoded : start.halves.fault? given.value.toList with
  | none =>
    have encodable : files.halves.fault? given.value.toList = none := inStep.system.halves ▸ encoded
    have assigns := IdentifierSource.assigned_eq_ok_iff.mpr
      ⟨dues, fun _ => .encodable inStep.readable.1 encodable⟩
    refine .answered assigns (by rw [reason, encoded]; rfl) answered ?_
    rw [after]
    exact inStep.stored nonempty encoded
  | some fault =>
    obtain ⟨refused, emptied⟩ := inStep.writable.emptied (inStep.system.halves ▸ encoded)
    have left : request.source.store.Left start (request.source.filesAfter request.record files) values
        (.unencodable fault) := ⟨nofun, fun _ _ => after ▸ emptied⟩
    refine .failed ?_ (by rw [reason, encoded]; rfl) left
    simp only [IdentifierSource.assigned, dues, stored, ↓reduceIte, refused]

theorem InStep.carried {request : Request} (inStep : store.InStep start files values)
    (usable : request.Usable store) {existing : Json} (carried : request.existing? = some existing) :
    store.Step start files values request := by
  have carries : request.source.existing? request.record = some existing := carried
  cases shown : Record.overlong? existing with
  | some fault =>
    refine inStep.undue fault ?_ ?_
    · simp only [IdentifierSource.due, carries, shown]
    · simp only [Request.failure?, carried, shown]
  | none =>
    have dues : request.source.due request.record files = .ok ⟨String.ofList (Record.textOf existing), none⟩ :=
      (IdentifierSource.due_of_existing carries).mpr ⟨shown, rfl⟩
    have nonempty : String.ofList (Record.textOf existing) ≠ "" := by
      simpa using usable.shown existing carried
    have given : request.existing? ≠ none := by simp [carried]
    refine inStep.due usable.shared dues nonempty ?_ ⟨?_, fun free => absurd free given, fun free => absurd free given⟩
    · simp only [Request.failure?, carried, shown, String.toList_ofList]
    · intro other same
      rw [carried] at same
      cases same
      rfl

theorem InStep.free {request : Request} (inStep : store.InStep start files values)
    (shared : request.source.store = store) (free : request.existing? = none) :
    store.Step start files values request := by
  subst shared
  have frees : request.source.existing? request.record = none := free
  have same : request.source.successor (request.source.store.textIn files) =
      request.source.successor (request.source.store.recent start values) :=
    IdentifierSource.successor_congr inStep.counts
  have dues := IdentifierSource.due_of_readable inStep.readable frees
  rw [same] at dues
  cases follows : request.source.successor (request.source.store.recent start values) with
  | error fault =>
    rw [follows] at dues
    exact inStep.undue fault dues (by simp only [Request.failure?, free, follows])
  | ok value =>
    rw [follows] at dues
    have reason : request.failure? start.halves (request.source.store.recent start values) =
        (start.halves.fault? value.toList).map .unencodable := by
      simp only [Request.failure?, free, follows]
    have answered : request.Answered (request.source.store.recent start values) (request.source.fresh value) := by
      obtain ⟨-, rfl⟩ := IdentifierSource.successor_eq_ok_iff.mp follows
      refine ⟨?_, ?_, ?_⟩
      · rw [free]
        exact nofun
      · intro _ n counted
        exact IdentifierSource.following_of_counted counted
      · intro _ uncounted
        exact IdentifierSource.following_of_uncounted uncounted
    by_cases empty : value = ""
    · subst empty
      have stored := IdentifierSource.not_stores_fresh frees
      refine .answered (IdentifierSource.assigned_eq_ok_iff.mpr ⟨dues, fun storing => ?_⟩)
        (by rw [reason]; rfl) answered ?_
      · rw [stored] at storing
        cases storing
      · rw [IdentifierSource.filesAfter_of_none dues frees rfl]
        exact inStep.skipped
    · exact inStep.due rfl dues empty reason answered

theorem InStep.next {request : Request} (inStep : store.InStep start files values)
    (usable : request.Usable store) : store.Step start files values request := by
  cases carried : request.existing? with
  | some existing => exact inStep.carried usable carried
  | none => exact inStep.free usable.shared carried

end IdentifierStore

namespace Request

open Act

variable {store : IdentifierStore} {start : Files}

def values (served : List Served) : List String :=
  served.map (·.assigned.value)

section Serving

variable {request : Request} {rest : List Request} {given : Assigned} {world middle after : World}

theorem serve_of_failed {failure : Failure}
    (failed : (request.source.next request.record).runIn world = (.error failure, middle)) :
    (serve (request :: rest)).runIn world = (.error failure, middle) := by
  rw [serve, runIn_bind_error failed]

theorem serve_of_broken {failure : Failure}
    (ran : (request.source.next request.record).runIn world = (.ok given, middle))
    (breaks : (serve rest).runIn middle = (.error failure, after)) :
    (serve (request :: rest)).runIn world = (.error failure, after) := by
  rw [serve, runIn_bind_ok ran, runIn_bind_ok (runIn_get _), runIn_bind_error breaks]

theorem serve_of_served {served : List Served}
    (ran : (request.source.next request.record).runIn world = (.ok given, middle))
    (serves : (serve rest).runIn middle = (.ok served, after)) :
    (serve (request :: rest)).runIn world = (.ok (⟨given, middle.files⟩ :: served), after) := by
  rw [serve, runIn_bind_ok ran, runIn_bind_ok (runIn_get _), runIn_bind_ok serves, runIn_pure]

end Serving

/-- How calls one after the other end: with an answer to each, or with the first that fails. -/
inductive Ends (store : IdentifierStore) (start : Files) (earlier : List String) (requests : List Request)
    (world : World) (served : List Served) : Prop where
  | complete {after : World} (length : served.length = requests.length)
      (serves : (serve requests).runIn world = (.ok served, after))
  | broken {request : Request} {failure : Failure} {after : World} (next : requests[served.length]? = some request)
      (reason : request.failure? start.halves (store.recent start (earlier ++ values served)) = some failure)
      (breaks : (serve requests).runIn world = (.error failure, after))
      (left : store.Left start after.files (earlier ++ values served) failure)

theorem Ends.all_served {earlier : List String} {requests : List Request} {world : World} {served : List Served}
    (ends : Ends store start earlier requests world served)
    (done : ((serve requests).runIn world).1.toOption.isSome = true) :
    served.length = requests.length ∧ ∃ after, (serve requests).runIn world = (.ok served, after) := by
  cases ends with
  | complete length serves => exact ⟨length, _, serves⟩
  | broken _ _ breaks =>
    rw [breaks] at done
    cases done

theorem Ends.length_le {earlier : List String} {requests : List Request} {world : World} {served : List Served}
    (ends : Ends store start earlier requests world served) : served.length ≤ requests.length := by
  cases ends with
  | complete length => omega
  | broken next => exact (List.getElem?_eq_some_iff.mp next).1.le

/-- A call has been answered, with no reason to fail, and the store has kept up. -/
structure InOrder (store : IdentifierStore) (start : Files) (earlier : List String) (request : Request)
    (answer : Served) : Prop where
  unfailing : request.failure? start.halves (store.recent start earlier) = none
  answered : request.Answered (store.recent start earlier) answer.assigned
  inStep : store.InStep start answer.files (earlier ++ [answer.assigned.value])

theorem values_take_succ {served : List Served} {i : Nat} {answer : Served} (found : served[i]? = some answer) :
    values (served.take (i + 1)) = values (served.take i) ++ [answer.assigned.value] := by
  rw [List.take_add_one, found, values, List.map_append]
  rfl

theorem serve_from (requests : List Request) (usable : ∀ request ∈ requests, request.Usable store)
    (earlier : List String) (world : World) (inStep : store.InStep start world.files earlier) :
    ∃ served, Ends store start earlier requests world served ∧
      (∃ after, (serve (requests.take served.length)).runIn world = (.ok served, after)) ∧
      ∀ i request answer, requests[i]? = some request → served[i]? = some answer →
        InOrder store start (earlier ++ values (served.take i)) request answer := by
  induction requests generalizing earlier world with
  | nil => exact ⟨[], .complete rfl rfl, ⟨world, rfl⟩, fun i _ _ asked => by simp at asked⟩
  | cons request rest ih =>
    obtain ⟨log, ran⟩ := request.source.next_runIn request.record world
    cases inStep.next (usable request List.mem_cons_self) with
    | failed failed reason left =>
      rw [failed] at ran
      refine ⟨[], ?_, ⟨world, rfl⟩, fun _ _ _ _ none => by simp at none⟩
      exact .broken rfl (by simpa [values] using reason) (serve_of_failed ran) (by simpa [values] using left)
    | @answered given assigns unfailing answered onward =>
      rw [assigns] at ran
      obtain ⟨served, ends, ⟨after, serves⟩, each⟩ :=
        ih (fun other member => usable other (List.mem_cons_of_mem request member)) (earlier ++ [given.value])
          { world with files := request.source.filesAfter request.record world.files, log } onward
      have later : ∀ tail, earlier ++ [given.value] ++ values tail =
          earlier ++ values (⟨given, request.source.filesAfter request.record world.files⟩ :: tail) := by
        intro tail
        simp [values]
      refine ⟨⟨given, request.source.filesAfter request.record world.files⟩ :: served, ?_, ?_, ?_⟩
      · cases ends with
        | complete length serves => exact .complete (by simp [length]) (serve_of_served ran serves)
        | broken next reason breaks left =>
          rw [later] at reason left
          exact .broken (by simpa using next) reason (serve_of_broken ran breaks) left
      · rw [List.length_cons, List.take_succ_cons]
        exact ⟨after, serve_of_served ran serves⟩
      · intro i asked answer atRequest atAnswer
        cases i with
        | zero =>
          cases atRequest
          cases atAnswer
          rw [List.take_zero, values, List.map_nil, List.append_nil]
          exact ⟨unfailing, answered, onward⟩
        | succ i =>
          rw [List.take_succ_cons, ← later]
          exact each i asked answer atRequest atAnswer

/-- The `i`-th identifier that follows a number. -/
def numbered (n : Int) (i : Nat) : String :=
  String.ofList (intText (n + 1 + i))

theorem leadingInt?_numbered (n : Int) (i : Nat) : leadingInt? (numbered n i).toList = some (n + 1 + i) := by
  rw [numbered, String.toList_ofList, leadingInt?_intText]

theorem numbered_ne_empty (n : Int) (i : Nat) : numbered n i ≠ "" := by
  intro empty
  have none : leadingInt? "".toList = none := rfl
  rw [← empty, leadingInt?_numbered] at none
  cases none

theorem leadingInt?_recent_numbered {n : Int}
    (first : leadingInt? (store.textIn start).toList = some n) (i : Nat) :
    leadingInt? (store.recent start ((List.range i).map (numbered n))).toList = some (n + i) := by
  cases i with
  | zero => simpa [IdentifierStore.recent, mostRecent?] using first
  | succ i =>
    have last : mostRecent? ((List.range (i + 1)).map (numbered n)) = some (numbered n i) := by
      rw [List.range_succ, List.map_append, List.map_singleton, mostRecent?_concat,
        if_neg (numbered_ne_empty n i)]
    have shift : n + 1 + (i : Int) = n + (i + 1 : Nat) := by omega
    rw [IdentifierStore.recent, last, Option.getD_some, leadingInt?_numbered, shift]

theorem values_counted {n : Int} {served : List Served}
    (first : leadingInt? (store.textIn start).toList = some n)
    (each : ∀ i answer, served[i]? = some answer →
      ∀ m, leadingInt? (store.recent start (values (served.take i))).toList = some m →
        answer.assigned.value = String.ofList (intText (m + 1))) :
    values served = (List.range served.length).map (numbered n) := by
  -- The answers so far are the first numbers, so the next one counts on from the last of them.
  have upTo : ∀ i ≤ served.length, values (served.take i) = (List.range i).map (numbered n) := by
    intro i
    induction i with
    | zero => exact fun _ => rfl
    | succ i ih =>
      intro within
      have found : served[i]? = some served[i] := List.getElem?_eq_getElem within
      have before := ih (by omega)
      have counted := leadingInt?_recent_numbered first i
      rw [← before] at counted
      have value := each i served[i] found (n + i) counted
      have shift : n + (i : Int) + 1 = n + 1 + i := by omega
      have next : served[i].assigned.value = numbered n i := by
        rw [value, shift, numbered]
      rw [values_take_succ found, before, next, List.range_succ, List.map_append, List.map_singleton]
  simpa using upTo served.length (Nat.le_refl _)

/-- Calls are answered one after the other, each counting on from the identifier in use, until one fails; that is
    the first with a reason to fail. -/
theorem serve_counts (store : IdentifierStore) (requests : List Request) (world : World)
    (usable : ∀ request ∈ requests, request.Usable store) (readable : store.Readable world.files)
    (writable : store.Writable world.files) :
    ∃ served, Ends store world.files [] requests world served ∧
      (∃ after, (serve (requests.take served.length)).runIn world = (.ok served, after)) ∧
      (∀ i request answer, requests[i]? = some request → served[i]? = some answer →
        InOrder store world.files (values (served.take i)) request answer) ∧
      (∀ n, leadingInt? (store.textIn world.files).toList = some n →
        (∀ request ∈ requests, request.existing? = none) →
        values served = (List.range served.length).map fun i : Nat => String.ofList (intText (n + 1 + i))) := by
  obtain ⟨served, ends, serves, each⟩ := serve_from requests usable [] world (.nil readable writable)
  simp only [List.nil_append] at each
  refine ⟨served, ends, serves, each, ?_⟩
  intro n first free
  refine values_counted first ?_
  intro i answer found m counted
  have within : i < requests.length := lt_of_lt_of_le (List.getElem?_eq_some_iff.mp found).1 ends.length_le
  have asked : requests[i]? = some requests[i] := List.getElem?_eq_getElem within
  exact (each i _ answer asked found).answered.counted (free _ (List.getElem_mem within)) m counted

theorem serve_counts_through_zero :
    let store : IdentifierStore := ⟨.below ["last.txt"]⟩
    let request : Request := ⟨⟨store, none, "id"⟩, .obj [("id", .null)]⟩
    let world : World := .untouched .blank { occupants := [(["last.txt"], .file "-2\n".toUTF8)] }
    ∃ served after, (serve [request, request, request]).runIn world = (.ok served, after) ∧
      values served = ["-1", "0", "1"] := by
  intro store request world
  have free : request.existing? = none := rfl
  have holds : store.Holds world.files "-2\n" := rfl
  have usable : ∀ other ∈ [request, request, request], other.Usable store := by
    intro other member
    have same : other = request := by simpa using member
    subst same
    exact ⟨rfl, fun existing carried => by rw [free] at carried; cases carried⟩
  have readable : store.Readable world.files := holds.readable (by subst world store; rfl)
  have stored : (store.put [] world.files).2 = .ok none := by subst world store; rfl
  have writable : store.Writable world.files := .of_stored [] stored
  obtain ⟨served, ends, -, -, counts⟩ :=
    serve_counts store [request, request, request] world usable readable writable
  have first : leadingInt? (store.textIn world.files).toList = some (-2) := by
    rw [holds.textIn, String.toList_ofList, leadingInt?_stored]
    rfl
  have frees : ∀ other ∈ [request, request, request], other.existing? = none := by
    intro other member
    have same : other = request := by simpa using member
    rw [same, free]
  have counted := counts (-2) first frees
  have done : ((serve [request, request, request]).runIn world).1.toOption.isSome = true := by
    subst world request store
    decide +kernel
  obtain ⟨length, after, serves⟩ := ends.all_served done
  rw [length] at counted
  exact ⟨served, after, serves, counted.trans (by decide)⟩

/-- An identifier without UTF-8 form is not given out, and the store is left empty. -/
theorem serve_breaks_off_half :
    let store : IdentifierStore := ⟨.below ["last.txt"]⟩
    let half := String.singleton (Text.Halves.usual.stand 0xD800)
    let request : Request := ⟨⟨store, none, "id"⟩, .obj [("id", .str half)]⟩
    let world : World := .untouched .blank { occupants := [(["last.txt"], .file "7".toUTF8)] }
    store.Readable world.files ∧ store.Writable world.files ∧ request.Usable store ∧
      ∃ after, (serve [request]).runIn world = (.error (.unencodable ⟨[0xD800], 0⟩), after) ∧
        store.Holds world.files "7" ∧ store.Holds after.files "" := by
  intro store half request world
  have holds : store.Holds world.files "7" := rfl
  have readable : store.Readable world.files := holds.readable (by subst world store; rfl)
  have stored : (store.put [] world.files).2 = .ok none := by subst world store; rfl
  have usable : request.Usable store := by
    refine ⟨rfl, fun existing carried => ?_⟩
    cases carried
    subst half
    exact List.cons_ne_nil _ _
  refine ⟨readable, .of_stored [] stored, usable, ?_⟩
  subst world request half store
  exact ⟨_, rfl, rfl, rfl⟩

end Request
end FormFill
