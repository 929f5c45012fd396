import FormFill.Address

namespace FormFill.Address

/-- The characters of an address that count. -/
def counted (url : String) : List Char :=
  (url.toList.dropWhile (·.toNat ≤ 0x20)).filter fun c => c ≠ '\t' ∧ c ≠ '\r' ∧ c ≠ '\n'

def netloc (url : String) : List Char :=
  netlocOf (splitScheme (counted url)).2

/-- A host that may stand in brackets. -/
def IsBracketed (host : List Char) : Prop :=
  (host.head? = some 'v' ∧ isFutureAddress host = true) ∨
    (host.head? ≠ some 'v' ∧ isIPv4 host = false ∧ isIPv6 host = true)

/-- A netloc that can be taken out of its address: without brackets or with an address for its host, and without
    characters that hide a delimiter. -/
structure Regular (netloc : List Char) : Prop where
  paired : '[' ∈ netloc ↔ ']' ∈ netloc
  bracketed : '[' ∈ netloc → ∃ host, hostOf netloc = .ok host ∧ IsBracketed host
  plain : ∀ c ∈ netloc, c.toNat ∉ hiddenDelimiters

theorem checkHost_eq_ok {host : List Char} : checkHost host = .ok () ↔ IsBracketed host := by
  unfold checkHost IsBracketed
  split
  · rename_i future
    simp [future]
  · rename_i other
    cases isIPv4 host <;> cases isIPv6 host <;> simp [other]

theorem checkBrackets_eq_ok {netloc : List Char} :
    checkBrackets netloc = .ok () ↔
      ('[' ∈ netloc ↔ ']' ∈ netloc) ∧ ('[' ∈ netloc → ∃ host, hostOf netloc = .ok host ∧ IsBracketed host) := by
  unfold checkBrackets
  by_cases opened : '[' ∈ netloc <;> by_cases closed : ']' ∈ netloc
  · simp only [List.contains_iff_mem.mpr opened, List.contains_iff_mem.mpr closed, opened, closed, true_implies,
      true_and, ← checkHost_eq_ok]
    cases hostOf netloc with
    | error fault => simp [bind, Except.bind]
    | ok host => simp [bind, Except.bind]
  · simp [opened, closed]
  · simp [opened, closed]
  · simp [opened, closed]

theorem checkNetloc_eq_ok {netloc : List Char} : checkNetloc netloc = .ok () ↔ Regular netloc := by
  have parts : Regular netloc ↔ checkBrackets netloc = .ok () ∧ ∀ c ∈ netloc, c.toNat ∉ hiddenDelimiters := by
    rw [checkBrackets_eq_ok]
    exact ⟨fun regular => ⟨⟨regular.paired, regular.bracketed⟩, regular.plain⟩,
      fun ⟨⟨paired, bracketed⟩, plain⟩ => ⟨paired, bracketed, plain⟩⟩
  rw [parts, checkNetloc]
  cases checkBrackets netloc with
  | error fault => simp [bind, Except.bind]
  | ok _ =>
    by_cases hidden : ∃ c ∈ netloc, c.toNat ∈ hiddenDelimiters
    · have found : netloc.any (·.toNat ∈ hiddenDelimiters) = true := by simpa using hidden
      simp [bind, Except.bind, found, hidden, throw, throwThe, MonadExceptOf.throw]
    · have plain : ∀ c ∈ netloc, c.toNat ∉ hiddenDelimiters := fun c member inside => hidden ⟨c, member, inside⟩
      have none : netloc.any (·.toNat ∈ hiddenDelimiters) = false := by simpa using plain
      simpa [bind, Except.bind, none, pure, Except.pure] using plain

theorem origin_regular (url : String) :
    match Address.origin url with
    | .ok _ => Regular (netloc url)
    | .error _ => ¬ Regular (netloc url) := by
  rw [← checkNetloc_eq_ok]
  have taken : Address.origin url = (do
      checkNetloc (netloc url)
      return String.ofList ((splitScheme (counted url)).1 ++ [':', '/', '/'] ++ netloc url)) := rfl
  rw [taken]
  cases checkNetloc (netloc url) with
  | error fault => simp [bind, Except.bind]
  | ok _ => simp [bind, Except.bind, pure, Except.pure]

end FormFill.Address
