import Mathlib.Data.String.Basic
import SqlText.Registry

/-!
# The registry — the last registration counts

A registry is what its registrations have left. `Holds` says so for a history of registrations:
the kind under a verb is that of the last registration under the verb, in whatever case
(`latest?`), and the verbs are those that were ever registered, in lower case.

A registration adds itself to the history and a creation adds nothing (`Holds.perform`), so a
run of operations adds its registrations (`Holds.run`). What creation yields is known from the
history alone (`create_eq_of_holds`), and a registration changes it for its own verb only, but
for the list of verbs that a failure shows (`create_register_of_ne`). The list is in the order
of the code points, whatever was registered (`pairwise_codePoints_verbs`).
-/

namespace SqlText.Registry

variable {r : Registry} {verb other : String} {kind : Builder.Kind} {target : Target}

-- ── Histories ─────────────────────────────────────────────────────────────────

/-- A verb as it was given, and the kind that was registered under it. -/
abbrev Registration := String × Builder.Kind

/-- What an operation registers. -/
def Operation.registration? : Operation → Option Registration
  | decorate verb kind | register verb kind => some (verb, kind)
  | create .. => none

/-- The registrations that every registry begins with. -/
def initial : List Registration :=
  Verb.all.map fun v => (v.name, .standard v)

variable {history : List Registration}

/-- The kind of the last registration under a verb, in whatever case. -/
def latest? (history : List Registration) (verb : String) : Option Builder.Kind :=
  (history.reverse.find? fun e => Text.lower e.1 = Text.lower verb).map Prod.snd

theorem latest?_concat (history : List Registration) (verb : String) (kind : Builder.Kind)
    (other : String) : latest? (history ++ [(verb, kind)]) other =
      if Text.lower verb = Text.lower other then some kind else latest? history other := by
  rw [latest?, List.reverse_append, List.reverse_singleton, List.singleton_append,
    List.find?_cons]
  by_cases h : Text.lower verb = Text.lower other
  · rw [if_pos h, decide_eq_true h]
    rfl
  · rw [if_neg h, decide_eq_false h]
    rfl

theorem latest?_eq_none_iff :
    latest? history verb = none ↔ ∀ e ∈ history, Text.lower e.1 ≠ Text.lower verb := by
  rw [latest?, Option.map_eq_none_iff, List.find?_eq_none]
  constructor
  · intro h e he
    exact fun heq => h e (List.mem_reverse.mpr he) (decide_eq_true heq)
  · intro h e he
    exact fun heq => h e (List.mem_reverse.mp he) (of_decide_eq_true heq)

-- ── The list of verbs ─────────────────────────────────────────────────────────

/-- The code points of a text. -/
def codePoints (text : String) : List Nat :=
  text.toList.map Char.toNat

/-- Texts are ordered by their code points. -/
theorem codePoints_lt {a b : String} (h : compare a b = .lt) : codePoints a < codePoints b := by
  have hlist : a.toList < b.toList :=
    String.lt_iff_toList_lt.mp (compareOfLessAndEq_eq_lt.mp h)
  rw [codePoints, codePoints]
  generalize a.toList = l at hlist
  generalize b.toList = l' at hlist
  induction l generalizing l' with
  | nil =>
      cases l' with
      | nil => exact absurd hlist (List.lt_irrefl [])
      | cons d l' => exact List.nil_lt_cons _ _
  | cons c l ih =>
      cases l' with
      | nil => exact absurd hlist (List.not_lt_nil _)
      | cons d l' =>
          rw [List.map_cons, List.map_cons, List.cons_lt_cons_iff]
          rcases List.cons_lt_cons_iff.mp hlist with hcd | ⟨rfl, hrest⟩
          · exact .inl hcd
          · exact .inr ⟨rfl, ih l' hrest⟩

theorem pairwise_codePoints_verbs (r : Registry) :
    r.verbs.Pairwise fun a b => codePoints a < codePoints b :=
  Std.TreeMap.ordered_keys.imp codePoints_lt

theorem mem_verbs_iff : verb ∈ r.verbs ↔ verb ∈ r.kinds :=
  Std.TreeMap.mem_keys

theorem mem_verbs_register :
    other ∈ (r.register verb kind).verbs ↔ Text.lower verb = other ∨ other ∈ r.verbs := by
  rw [mem_verbs_iff, mem_verbs_iff, register, Std.TreeMap.mem_insert,
    Std.LawfulEqCmp.compare_eq_iff_eq]

/-- A verb that is known already is not listed twice. -/
theorem verbs_register_of_mem (h : Text.lower verb ∈ r.verbs) :
    (r.register verb kind).verbs = r.verbs := by
  have hmem : ∀ other, other ∈ (r.register verb kind).verbs ↔ other ∈ r.verbs := by
    intro other
    rw [mem_verbs_register]
    constructor
    · rintro (rfl | hother)
      · exact h
      · exact hother
    · exact .inr
  have hdistinct (r : Registry) : r.verbs.Nodup :=
    (pairwise_codePoints_verbs r).imp fun hlt heq => absurd (heq ▸ hlt) (List.lt_irrefl _)
  have hperm : (r.register verb kind).verbs.Perm r.verbs :=
    (List.perm_ext_iff_of_nodup (hdistinct _) (hdistinct r)).mpr hmem
  refine hperm.eq_of_pairwise ?_ (pairwise_codePoints_verbs _) (pairwise_codePoints_verbs r)
  intro a b _ _ hab hba
  exact absurd (List.lt_trans hab hba) (List.lt_irrefl _)

-- ── What a history leaves ─────────────────────────────────────────────────────

/-- The registry is what the registrations of a history have left. -/
structure Holds (r : Registry) (history : List Registration) : Prop where
  kind : ∀ verb, r.kind? verb = latest? history verb
  verbs : ∀ verb, verb ∈ r.verbs ↔ ∃ e ∈ history, Text.lower e.1 = verb

namespace Holds

theorem empty : Holds ⟨∅⟩ [] where
  kind _ := Std.TreeMap.getElem?_emptyc
  verbs verb := by simp [mem_verbs_iff]

theorem register (h : Holds r history) (verb : String) (kind : Builder.Kind) :
    Holds (r.register verb kind) (history ++ [(verb, kind)]) where
  kind other := by
    rw [latest?_concat]
    by_cases hlower : Text.lower verb = Text.lower other
    · rw [if_pos hlower, kind?_register_of_eq hlower]
    · rw [if_neg hlower, kind?_register_of_ne hlower, h.kind]
  verbs other := by
    rw [mem_verbs_register, h.verbs]
    constructor
    · rintro (hverb | ⟨e, he, heq⟩)
      · exact ⟨(verb, kind), List.mem_append_right _ List.mem_cons_self, hverb⟩
      · exact ⟨e, List.mem_append_left _ he, heq⟩
    · rintro ⟨e, he, heq⟩
      rcases List.mem_append.mp he with he | he
      · exact .inr ⟨e, he, heq⟩
      · obtain rfl : e = (verb, kind) := List.mem_singleton.mp he
        exact .inl heq

theorem standard : Holds standard initial :=
  (((empty.register _ _).register _ _).register _ _).register _ _

theorem perform (h : Holds r history) (operation : Operation) :
    Holds (r.perform operation).1 (history ++ operation.registration?.toList) := by
  cases operation with
  | decorate verb kind => exact h.register verb kind
  | register verb kind => exact h.register verb kind
  | create verb target =>
      rw [Operation.registration?, Option.toList_none, List.append_nil]
      exact h

theorem run (h : Holds r history) (operations : List Operation) :
    Holds (r.run operations) (history ++ operations.filterMap Operation.registration?) := by
  induction operations generalizing r history with
  | nil =>
      rw [List.filterMap_nil, List.append_nil]
      exact h
  | cons operation operations ih =>
      have hrest := ih (h.perform operation)
      rw [List.append_assoc] at hrest
      have hcons : (operation :: operations).filterMap Operation.registration? =
          operation.registration?.toList ++ operations.filterMap Operation.registration? := by
        rw [List.filterMap_cons]
        cases operation.registration? <;> rfl
      rw [hcons]
      exact hrest

end Holds

-- ── What creation yields ──────────────────────────────────────────────────────

theorem create_eq_of_holds (h : Holds r history) : r.create verb target =
    match latest? history verb with
    | some kind => .ok (.new kind target)
    | none => .error (.unregisteredVerb verb r.verbs) := by
  show (match r.kind? verb with
    | some kind => Except.ok (Builder.new kind target)
    | none => .error (Fault.unregisteredVerb verb r.verbs)) = _
  rw [h.kind]

/-- A registration under another verb shows in a failure at most, in the list of verbs. -/
theorem create_register_of_ne (h : Text.lower verb ≠ Text.lower other) :
    (r.register verb kind).create other target =
      (r.create other target).mapError fun _ =>
        .unregisteredVerb other (r.register verb kind).verbs := by
  rw [create, create, kind?_register_of_ne h]
  cases r.kind? other <;> rfl

/-- It does not even show there if its own verb was listed before. -/
theorem create_register_of_listed (h : Text.lower verb ≠ Text.lower other)
    (hlisted : Text.lower verb ∈ r.verbs) :
    (r.register verb kind).create other target = r.create other target := by
  rw [create, create, kind?_register_of_ne h, verbs_register_of_mem hlisted]

/-- **THE LAST REGISTRATION COUNTS**: after any run of operations creation yields a builder of
    the kind that was last registered under the verb, in whatever case, and fails if there is
    none; it leaves the registry as it is. The verbs are those that were ever registered, the
    standard ones among them, each once and in order. A registration changes what is created
    under its own verb and no other. -/
theorem run_last_counts (operations : List Operation) :
    let r := standard.run operations
    let history := initial ++ operations.filterMap Operation.registration?
    (∀ verb target, r.perform (.create verb target) =
      (r, .created (match latest? history verb with
        | some kind => .ok (.new kind target)
        | none => .error (.unregisteredVerb verb r.verbs))))
    ∧ (∀ verb, latest? history verb = none ↔ ∀ e ∈ history, Text.lower e.1 ≠ Text.lower verb)
    ∧ (∀ verb, (Fault.unregisteredVerb verb r.verbs).clause? = some "verb" ∧
        (Fault.unregisteredVerb verb r.verbs).message =
          "Unsupported statement verb: '" ++ verb ++ "'. Registered verbs: "
            ++ Text.quotedList r.verbs ++ ".")
    ∧ r.verbs.Pairwise (fun a b => codePoints a < codePoints b)
    ∧ (∀ verb, verb ∈ r.verbs ↔ ∃ e ∈ history, Text.lower e.1 = verb)
    ∧ (∀ v : Verb, v.name ∈ r.verbs)
    ∧ ∀ verb kind other target, Text.lower verb ≠ Text.lower other →
        ((r.register verb kind).create other target =
          (r.create other target).mapError fun _ =>
            .unregisteredVerb other (r.register verb kind).verbs)
        ∧ (Text.lower verb ∈ r.verbs →
          (r.register verb kind).create other target = r.create other target) := by
  intro r history
  have h : Holds r history := Holds.standard.run operations
  refine ⟨?_, fun verb => latest?_eq_none_iff, fun verb => ⟨rfl, rfl⟩,
    pairwise_codePoints_verbs r, h.verbs, ?_, ?_⟩
  · intro verb target
    rw [perform, create_eq_of_holds h]
  · intro v
    refine (h.verbs v.name).mpr ⟨(v.name, .standard v), ?_, ?_⟩
    · refine List.mem_append_left _ (List.mem_map.mpr ⟨v, ?_, rfl⟩)
      cases v <;> decide
    · cases v <;> decide +kernel
  · intro verb kind other target hne
    exact ⟨create_register_of_ne hne, create_register_of_listed hne⟩

/-- A builder of one's own under a verb counts in every case of the verb, also if another verb
    is registered after it. -/
theorem run_own_select :
    let own : Builder.Kind := ⟨.select, "OwnSelect", "own"⟩
    let r := standard.run [.decorate "UPSERT" (.standard .update), .create "merge" (.named "T"),
      .register "Select" own]
    r.create "sELECT" (.named "[T]") = .ok ⟨own, "T"⟩
    ∧ (r.register "MERGE" (.standard .insert)).create "sELECT" (.named "[T]") =
        .ok ⟨own, "T"⟩ := by
  intro own r
  obtain ⟨hcreate, -, -, -, -, -, hother⟩ := run_last_counts
    [.decorate "UPSERT" (.standard .update), .create "merge" (.named "T"), .register "Select" own]
  have hlatest : latest? (initial ++ [("UPSERT", .standard .update), ("Select", own)]) "sELECT" =
      some own := by
    decide +kernel
  have hown : r.create "sELECT" (.named "[T]") = .ok ⟨own, "T"⟩ := by
    have hkind := Answer.created.inj (Prod.mk.inj (hcreate "sELECT" (.named "[T]"))).2
    simp only [hlatest, List.filterMap, Operation.registration?] at hkind
    exact hkind
  refine ⟨hown, ?_⟩
  have hne : Text.lower "MERGE" ≠ Text.lower "sELECT" := by decide +kernel
  obtain ⟨hframe, -⟩ := hother "MERGE" (.standard .insert) "sELECT" (.named "[T]") hne
  refine hframe.trans ?_
  rw [hown]
  rfl

end SqlText.Registry
