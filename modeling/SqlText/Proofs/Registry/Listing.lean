import SqlText.Proofs.Casing
import SqlText.Proofs.Registry

/-!
# Listing — what a registry lists can be created

Verbs are put in lower case when they are registered, and again when a builder is asked for. So
a verb is found under its own name only if lower-casing leaves it alone, and this is so of every
verb that is listed: each of them is a text in lower case (`lower_of_mem_verbs`), since each was
put there by a registration.

What is found under a verb depends on its lower case alone, and that is the same for two verbs
that differ in the case of ASCII letters (`kind?_congr`).
-/

namespace SqlText.Registry

variable {r : Registry} {history : List Registration} {verb other : String}
  {kind : Builder.Kind} {target : Target}

theorem lower_of_mem_verbs (h : Holds r history) (hverb : verb ∈ r.verbs) :
    Text.lower verb = verb := by
  obtain ⟨e, -, rfl⟩ := (h.verbs verb).mp hverb
  exact Text.lower_lower e.1

theorem kinds_getElem?_of_mem (h : verb ∈ r.verbs) : ∃ kind, r.kinds[verb]? = some kind :=
  Option.isSome_iff_exists.mp (Std.TreeMap.mem_iff_isSome_getElem?.mp (mem_verbs_iff.mp h))

theorem create_of_kind? (h : r.kind? verb = some kind) :
    r.create verb target = .ok (.new kind target) := by
  rw [create, h]

theorem create_of_kind?_eq_none (h : r.kind? verb = none) :
    r.create verb target = .error (.unregisteredVerb verb r.verbs) := by
  rw [create, h]

/-- The case of ASCII letters does not matter to what is found. -/
theorem kind?_congr (h : verb.toLower = other.toLower) : r.kind? verb = r.kind? other := by
  rw [kind?, kind?, ← Text.lower_toLower verb, h, Text.lower_toLower]

/-- **WHAT IS LISTED CAN BE CREATED**: after any run of operations, each verb of the list yields
    builders of the kind that is stored under it, for every target. Two verbs that differ in the
    case of ASCII letters at most yield builders of one kind, or both yield none. -/
theorem run_creates_listed (operations : List Operation) :
    let r := standard.run operations
    (∀ verb ∈ r.verbs, ∃ kind, r.kinds[verb]? = some kind
      ∧ ∀ target, r.create verb target = .ok (.new kind target))
    ∧ ∀ verb other : String, verb.toLower = other.toLower →
        (∃ kind, ∀ target, r.create verb target = .ok (.new kind target)
          ∧ r.create other target = .ok (.new kind target))
        ∨ ∀ target, r.create verb target = .error (.unregisteredVerb verb r.verbs)
          ∧ r.create other target = .error (.unregisteredVerb other r.verbs) := by
  intro r
  have h : Holds r _ := Holds.standard.run operations
  constructor
  · intro verb hverb
    obtain ⟨kind, hkind⟩ := kinds_getElem?_of_mem hverb
    have hfound : r.kind? verb = some kind := by
      rw [kind?, lower_of_mem_verbs h hverb, hkind]
    exact ⟨kind, hkind, fun target => create_of_kind? hfound⟩
  · intro verb other hcase
    cases hother : r.kind? other with
    | some kind =>
        have hverb : r.kind? verb = some kind := (kind?_congr hcase).trans hother
        exact .inl ⟨kind, fun target => ⟨create_of_kind? hverb, create_of_kind? hother⟩⟩
    | none =>
        have hverb : r.kind? verb = none := (kind?_congr hcase).trans hother
        exact .inr fun target => ⟨create_of_kind?_eq_none hverb, create_of_kind?_eq_none hother⟩

/-- A verb with a dotted capital before its letters and a sigma behind them: it is listed with
    two characters for the first and the final form of the last, and found in every case of the
    letters between. -/
theorem run_creates_dotted_final :
    let own : Builder.Kind := ⟨.insert, "OwnInsert", "own"⟩
    let r := standard.run [.register "merge" (.standard .update), .decorate "İnsertΣ" own]
    (∃ kind, r.kinds["i̇nsertς"]? = some kind
      ∧ ∀ target, r.create "i̇nsertς" target = .ok (.new kind target))
    ∧ ∀ target, r.create "İNSERTΣ" target = .ok (.new own target) := by
  intro own r
  obtain ⟨hlisted, hcase⟩ := run_creates_listed
    [.register "merge" (.standard .update), .decorate "İnsertΣ" own]
  have hlower : Text.lower "İnsertΣ" = "i̇nsertς" := by decide +kernel
  have hmem : "i̇nsertς" ∈ r.verbs := mem_verbs_register.mpr (.inl hlower)
  have hown {target : Target} : r.create "İnsertΣ" target = .ok (.new own target) :=
    create_of_kind? (kind?_register_of_eq rfl)
  have hletters : "İNSERTΣ".toLower = "İnsertΣ".toLower := by
    rw [String.toLower, String.toLower, ← String.toList_inj, String.toList_map, String.toList_map]
    decide
  refine ⟨hlisted _ hmem, fun target => ?_⟩
  rcases hcase "İNSERTΣ" "İnsertΣ" hletters with ⟨kind, hkind⟩ | hnone
  · obtain ⟨hverb, hother⟩ := hkind target
    rw [hverb, ← hother, hown]
  · exact absurd ((hnone target).2.symm.trans hown) (by simp)

end SqlText.Registry
