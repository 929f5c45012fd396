import FormFill.Proofs.Identifier.Sequence

namespace FormFill.Request

open Act

variable {store : IdentifierStore} {start : Option String} {first : Option Int}

/-- The identifiers that as many calls give to records without one: the numbers after the one in use or,
    while none is in use, the seed. -/
def issued (seed : String) : Option Int → Nat → List String
  | _, 0 => []
  | some n, calls + 1 => String.ofList (intText (n + 1)) :: issued seed (some (n + 1)) calls
  | none, calls + 1 => seed :: issued seed (leadingInt? seed.toList) calls

def Ascends (left right : String) : Prop :=
  ∃ m n, leadingInt? left.toList = some m ∧ leadingInt? right.toList = some n ∧ m < n

theorem Ascends.ne {left right : String} (ascends : Ascends left right) : left ≠ right := by
  obtain ⟨m, n, below, above, less⟩ := ascends
  intro same
  rw [same, above, Option.some.injEq] at below
  omega

theorem issued_counting (seed : String) (n : Int) (calls : Nat) :
    issued seed (some n) calls = (List.range calls).map (numbered n) := by
  induction calls generalizing n with
  | zero => rfl
  | succ calls ih =>
    rw [issued, ih, List.range_succ_eq_map, List.map_cons, List.map_map]
    have head : String.ofList (intText (n + 1)) = numbered n 0 := by
      rw [numbered, Int.natCast_zero, Int.add_zero]
    have tail : numbered (n + 1) = numbered n ∘ Nat.succ := by
      funext i
      have shift : n + 1 + 1 + (i : Int) = n + 1 + (Nat.succ i : Nat) := by omega
      rw [Function.comp_apply, numbered, numbered, shift]
    rw [head, tail]

theorem issued_repeating {seed : String} (uncounted : leadingInt? seed.toList = none) (calls : Nat) :
    issued seed none calls = List.replicate calls seed := by
  induction calls with
  | zero => rfl
  | succ calls ih => rw [issued, uncounted, ih, List.replicate_succ]

theorem numbered_ascends (n : Int) (calls : Nat) :
    ((List.range calls).map (numbered n)).Pairwise Ascends := by
  refine List.pairwise_map.mpr (List.pairwise_lt_range.imp ?_)
  intro i j less
  exact ⟨n + 1 + i, n + 1 + j, leadingInt?_numbered n i, leadingInt?_numbered n j, by omega⟩

/-- Once a number is in use, be it the seed's own, the identifiers that follow have greater numbers. -/
theorem issued_ascends {seed : String} (counted : first ≠ none ∨ leadingInt? seed.toList ≠ none)
    (calls : Nat) : (issued seed first calls).Pairwise Ascends := by
  cases first with
  | some n =>
    rw [issued_counting]
    exact numbered_ascends n calls
  | none =>
    cases calls with
    | zero => exact .nil
    | succ calls =>
      obtain ⟨m, seeded⟩ : ∃ m, leadingInt? seed.toList = some m := by
        rcases counted with none | some
        · exact absurd rfl none
        · exact Option.ne_none_iff_exists'.mp some
      rw [issued, seeded, issued_counting]
      refine .cons ?_ (numbered_ascends m calls)
      intro value member
      obtain ⟨i, -, rfl⟩ := List.mem_map.mp member
      exact ⟨m, m + 1 + i, seeded, leadingInt?_numbered m i, by omega⟩

theorem issued_nodup_iff (seed : String) (first : Option Int) (calls : Nat) :
    ((issued seed first calls).filter (· ≠ "")).Nodup ↔
      calls ≤ 1 ∨ first ≠ none ∨ leadingInt? seed.toList ≠ none ∨ seed = "" := by
  by_cases counted : first ≠ none ∨ leadingInt? seed.toList ≠ none
  · have distinct := (issued_ascends counted calls).imp Ascends.ne
    have kept := distinct.sublist (List.filter_sublist (p := fun value => decide (value ≠ "")))
    exact iff_of_true kept (.inr (by rcases counted with some | some <;> simp [some]))
  · obtain ⟨unused, uncounted⟩ : first = none ∧ leadingInt? seed.toList = none := by
      simpa using counted
    rw [unused, issued_repeating uncounted]
    by_cases empty : seed = ""
    · simp [empty]
    · simp [empty, uncounted, List.nodup_replicate]

/-- A call for a record that brings no identifier along. -/
structure Free (store : IdentifierStore) (start : Option String) (request : Request) : Prop where
  shared : request.source.store = store
  seeded : request.source.start = start
  free : request.existing? = none

/-- Identifiers each of which follows the one in use are issued one after the other. -/
theorem eq_issued (seed last : String) {values : List String}
    (each : ∀ i value, values[i]? = some value →
      value = match leadingInt? ((mostRecent? (values.take i)).getD last).toList with
        | some n => String.ofList (intText (n + 1))
        | none => seed) :
    values = issued seed (leadingInt? last.toList) values.length := by
  induction values generalizing last with
  | nil => rw [List.length_nil, issued]
  | cons value rest ih =>
    have head := each 0 value rfl
    have tail := ih (if value = "" then last else value) fun i later found => by
      have recent : (mostRecent? (value :: rest.take i)).getD last =
          (mostRecent? (rest.take i)).getD (if value = "" then last else value) := by
        rw [mostRecent?_cons]
        cases mostRecent? (rest.take i) <;> split <;> rfl
      simpa only [List.take_succ_cons, recent] using each (i + 1) later found
    rw [List.take_zero] at head
    change value = match leadingInt? last.toList with | some n => _ | none => _ at head
    rw [List.length_cons]
    cases stored : leadingInt? last.toList with
    | some n =>
      rw [stored] at head
      dsimp only at head
      have counts : leadingInt? value.toList = some (n + 1) := by
        rw [head, String.toList_ofList, leadingInt?_intText]
      have nonempty : value ≠ "" := fun empty => by rw [empty] at counts; cases counts
      rw [if_neg nonempty, counts] at tail
      rw [issued, ← head, ← tail]
    | none =>
      rw [stored] at head
      dsimp only at head
      have following : leadingInt? (if value = "" then last else value).toList = leadingInt? seed.toList := by
        split
        · rename_i empty
          rw [stored, ← head, empty]
          rfl
        · rw [head]
      rw [following] at tail
      rw [issued, ← tail, head]

theorem serve_issues (requests : List Request) (free : ∀ request ∈ requests, request.Free store start)
    (world : World) (readable : store.Readable world.files) (writable : store.Writable world.files) :
    ∃ served, Ends store world.files [] requests world served ∧
      (∃ after, (serve (requests.take served.length)).runIn world = (.ok served, after)) ∧
      values served = issued (start.getD "") (leadingInt? (store.textIn world.files).toList) served.length := by
  have usable : ∀ request ∈ requests, request.Usable store := by
    intro request member
    obtain ⟨shared, -, absent⟩ := free request member
    exact ⟨shared, fun existing carried => by rw [absent] at carried; cases carried⟩
  obtain ⟨served, ends, serves, each⟩ := serve_from requests usable [] world (.nil readable writable)
  refine ⟨served, ends, serves, ?_⟩
  have length : (values served).length = served.length := by rw [values, List.length_map]
  rw [← length]
  refine eq_issued _ _ fun i value found => ?_
  obtain ⟨answer, standing, rfl⟩ : ∃ answer, served[i]? = some answer ∧ answer.assigned.value = value := by
    simpa [values] using found
  have within : i < requests.length := lt_of_lt_of_le (List.getElem?_eq_some_iff.mp standing).1 ends.length_le
  have asked : requests[i]? = some requests[i] := List.getElem?_eq_getElem within
  have answered := (each i _ answer asked standing).answered
  obtain ⟨-, rfl, absent⟩ := free requests[i] (List.getElem_mem within)
  have recent : (mostRecent? ((values served).take i)).getD (store.textIn world.files) =
      store.recent world.files ([] ++ values (served.take i)) := by
    rw [List.nil_append, values, values, ← List.map_take, IdentifierStore.recent]
  rw [recent]
  split
  · rename_i n counted
    exact answered.counted absent n counted
  · rename_i uncounted
    exact answered.started absent uncounted

/-- The identifiers given out one after the other are distinct, and then numbered upwards, where a number is
    stored or the seed begins with one. Any other seed is given out again and again. -/
theorem serve_distinct_iff (store : IdentifierStore) (start : Option String) (requests : List Request)
    (world : World) (free : ∀ request ∈ requests, request.Free store start)
    (readable : store.Readable world.files) (writable : store.Writable world.files) :
    ∃ served, Ends store world.files [] requests world served ∧
      (∃ after, (serve (requests.take served.length)).runIn world = (.ok served, after)) ∧
      (((values served).filter (· ≠ "")).Nodup ↔
        served.length ≤ 1 ∨ leadingInt? (store.textIn world.files).toList ≠ none ∨
          leadingInt? (start.getD "").toList ≠ none ∨ start.getD "" = "") ∧
      (leadingInt? (store.textIn world.files).toList ≠ none ∨ leadingInt? (start.getD "").toList ≠ none →
        (values served).Pairwise Ascends) := by
  obtain ⟨served, ends, serves, issues⟩ := serve_issues requests free world readable writable
  refine ⟨served, ends, serves, ?_, ?_⟩
  · rw [issues]
    exact issued_nodup_iff _ _ _
  · intro counted
    rw [issues]
    exact issued_ascends counted _

theorem serve_distinct_iff_seeded :
    let store : IdentifierStore := ⟨.below ["last.txt"]⟩
    let request : Request := ⟨⟨store, some "-1 (old)", "id"⟩, .obj [("id", .str "")]⟩
    ∃ served after, (serve [request, request, request]).runIn (.untouched .blank .empty) = (.ok served, after) ∧
      ((values served).filter (· ≠ "")).Nodup := by
  intro store request
  have free : ∀ other ∈ [request, request, request], other.Free store (some "-1 (old)") := by
    intro other member
    have same : other = request := by simpa using member
    subst same
    exact ⟨rfl, rfl, rfl⟩
  have refused : (World.untouched .blank .empty).files.refusal? store.path = none := by subst request store; rfl
  have readable : store.Readable (World.untouched .blank .empty).files := .of_read_error refused rfl
  have stored : (store.put [] (World.untouched .blank .empty).files).2 = .ok none := by subst request store; rfl
  obtain ⟨served, ends, -, distinct, -⟩ :=
    serve_distinct_iff store (some "-1 (old)") [request, request, request] _ free readable (.of_stored [] stored)
  have counted : leadingInt? ((some "-1 (old)").getD "").toList ≠ none := by decide
  have done : ((serve [request, request, request]).runIn (.untouched .blank .empty)).1.toOption.isSome = true := by
    subst request store
    decide +kernel
  obtain ⟨-, after, serves⟩ := ends.all_served done
  exact ⟨served, after, serves, distinct.mpr (.inr (.inr (.inl counted)))⟩

/-- A seed without a number is accepted, and two records are given the same identifier. -/
theorem serve_repeats_seed :
    ∃ options, IdentifierOptions.read (.obj [("start", .str "SKU-A")]) = .valid options ∧
      let source : IdentifierSource := .ofOptions options "last.txt"
      let request : Request := ⟨source, .obj []⟩
      let world : World := .untouched .blank .empty
      source.store.Readable world.files ∧ source.store.Writable world.files ∧ request.existing? = none ∧
        ∃ served after, (serve [request, request]).runIn world = (.ok served, after) ∧
          values served = ["SKU-A", "SKU-A"] ∧ ¬((values served).filter (· ≠ "")).Nodup := by
  refine ⟨⟨none, some "SKU-A", "sku"⟩, rfl, ?_⟩
  intro source request world
  have refused : world.files.refusal? source.store.path = none := by subst world source; rfl
  have stored : (source.store.put [] world.files).2 = .ok none := by subst world source; rfl
  obtain ⟨served, after, serves, repeated⟩ : ∃ served after,
      (serve [request, request]).runIn world = (.ok served, after) ∧
      values served = ["SKU-A", "SKU-A"] := by
    subst world request source
    exact ⟨_, _, rfl, rfl⟩
  refine ⟨.of_read_error refused rfl, .of_stored [] stored, rfl, served, after, serves, repeated, ?_⟩
  rw [repeated]
  decide

end FormFill.Request
