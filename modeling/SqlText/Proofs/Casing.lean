import Mathlib
import SqlText.Text.Casing

/-!
# Casing — casing again changes nothing, and the case of ASCII letters does not matter

A table of casing leads to code points that it leaves alone. For its runs this need not be
asked of each code point: the images of a run are a stretch again, and two stretches can be
compared by their ends and, where they take every second code point only, by their parity
(`Run.misses`). A table that is `Stable` in this sense maps each character that it leads to
to itself (`mapChar_of_mem`), and both tables are stable (`stable_lower`, `stable_upper`).

Upper-casing goes character by character, so this is all that it takes (`upper_upper`). In lower
case the capital sigma is not in the way. It is the one character whose lower case depends on its
neighbours, but no lower case has it, so a text in lower case is mapped character by character
and stays as it is (`lower_lower`).

Nor do its neighbours tell the case of an ASCII letter. A text is lower-cased by four facts
about each of its characters, and a letter has them in common with its other case
(`Interchangeable`), so letters may be exchanged before it (`lower_toLower`).
-/

namespace SqlText.Text

-- ── Tables ────────────────────────────────────────────────────────────────────

namespace Casing

variable {run other : Run} {runs : List Run} {expansions : List (Nat × List Nat)} {code d : Nat}

/-- The run takes code points of one parity only. -/
def Run.skips (run : Run) : Bool :=
  run.first == run.last || run.step == 2

/-- The run does not lead to a code point that the other one covers, for it ends before the
other begins or begins behind its end, or takes the code points between those of the other. -/
def Run.misses (run other : Run) : Bool :=
  Nat.blt (run.image run.last) other.first || Nat.blt other.last run.target ||
    (run.skips && other.step == 2 && (run.target + other.first) % 2 == 1)

theorem Run.covers_image (h : run.misses other = true) (hc : run.covers code = true) :
    other.covers (run.image code) = false := by
  rw [Bool.eq_false_iff]
  intro hother
  simp only [covers, Bool.and_eq_true, decide_eq_true_eq, beq_iff_eq] at hc hother
  obtain ⟨⟨hfirst, hlast⟩, hstep⟩ := hc
  obtain ⟨⟨hfirst', hlast'⟩, hstep'⟩ := hother
  simp only [misses, skips, Bool.or_eq_true, Bool.and_eq_true, Nat.blt_eq, beq_iff_eq] at h
  rw [image] at hfirst' hlast' hstep' h
  rcases h with (hbefore | hbehind) | ⟨⟨hskips, htwo⟩, hparity⟩
  · omega
  · omega
  · -- both stretches keep their parity, so the code point would have two of them
    have heven : (code - run.first) % 2 = 0 := by
      rcases hskips with hone | hrun
      · omega
      · rwa [hrun] at hstep
    rw [htwo] at hstep'
    omega

/-- The table leads to code points of characters alone, and changes none of them. -/
structure Stable (runs : List Run) (expansions : List (Nat × List Nat)) : Prop where
  misses : ∀ run ∈ runs, runs.all run.misses = true
  misses_expansions : ∀ run ∈ runs, ∀ e ∈ expansions, e.1 < run.target ∨ run.image run.last < e.1
  expansions_kept : ∀ e ∈ expansions, ∀ d ∈ e.2, mapCode runs expansions d = [d]
  valid : ∀ run ∈ runs,
    run.image run.last < 0xD800 ∨ 0xDFFF < run.target ∧ run.image run.last < 0x110000
  expansions_valid : ∀ e ∈ expansions, ∀ d ∈ e.2, d.isValidChar

namespace Stable

theorem mapCode_image (h : Stable runs expansions) (hrun : run ∈ runs)
    (hc : run.covers code = true) :
    mapCode runs expansions (run.image code) = [run.image code] := by
  have hlookup : expansions.lookup (run.image code) = none := by
    rw [List.lookup_eq_none_iff]
    intro e he
    rw [bne_iff_ne]
    intro heq
    have hends := h.misses_expansions run hrun e he
    simp only [Run.covers, Bool.and_eq_true, decide_eq_true_eq] at hc
    rw [← heq, Run.image, Run.image] at hends
    omega
  have hfind : runs.find? (·.covers (run.image code)) = none := by
    rw [List.find?_eq_none]
    intro other hother
    rw [Run.covers_image (List.all_eq_true.mp (h.misses run hrun) other hother) hc]
    exact Bool.false_ne_true
  rw [mapCode, hlookup, hfind]

/-- What the table leads to is kept by it. -/
theorem mapCode_of_mem (h : Stable runs expansions) (hd : d ∈ mapCode runs expansions code) :
    mapCode runs expansions d = [d] := by
  rw [mapCode] at hd
  split at hd
  · next codes hlookup =>
      obtain ⟨l, l', hsplit, -⟩ := List.lookup_eq_some_iff.mp hlookup
      exact h.expansions_kept (code, codes) (by rw [hsplit]; simp) d hd
  · next hlookup =>
      split at hd
      · next run hfind =>
          obtain rfl : d = run.image code := List.mem_singleton.mp hd
          have hcovers : run.covers code = true := by simpa using List.find?_some hfind
          exact h.mapCode_image (List.mem_of_find?_eq_some hfind) hcovers
      · next hfind =>
          obtain rfl : d = code := List.mem_singleton.mp hd
          rw [mapCode, hlookup, hfind]

/-- The table maps characters to characters. -/
theorem isValidChar_of_mem (h : Stable runs expansions) (hcode : code.isValidChar)
    (hd : d ∈ mapCode runs expansions code) : d.isValidChar := by
  rw [mapCode] at hd
  split at hd
  · next codes hlookup =>
      obtain ⟨l, l', hsplit, -⟩ := List.lookup_eq_some_iff.mp hlookup
      exact h.expansions_valid (code, codes) (by rw [hsplit]; simp) d hd
  · split at hd
    · next run hfind =>
        obtain rfl : d = run.image code := List.mem_singleton.mp hd
        have hvalid := h.valid run (List.mem_of_find?_eq_some hfind)
        have hcovers : run.covers code = true := by simpa using List.find?_some hfind
        simp only [Run.covers, Bool.and_eq_true, decide_eq_true_eq] at hcovers
        simp only [Run.image] at hvalid ⊢
        rcases hvalid with hlow | ⟨hfrom, hto⟩
        · exact .inl (by omega)
        · exact .inr ⟨by omega, by omega⟩
    · obtain rfl : d = code := List.mem_singleton.mp hd
      exact hcode

/-- The same of characters. -/
theorem mapChar_of_mem (h : Stable runs expansions) {a c : Char}
    (hc : c ∈ (mapCode runs expansions a.toNat).map Char.ofNat) :
    (mapCode runs expansions c.toNat).map Char.ofNat = [c] := by
  obtain ⟨d, hd, rfl⟩ := List.mem_map.mp hc
  have hvalid : d.isValidChar := h.isValidChar_of_mem a.valid hd
  rw [Char.toNat_ofNat, if_pos hvalid, h.mapCode_of_mem hd]
  rfl

end Stable

theorem stable_lower : Stable lowerRuns lowerExpansions where
  misses := by decide +kernel
  misses_expansions := by decide +kernel
  expansions_kept := by decide +kernel
  valid := by decide +kernel
  expansions_valid := by decide +kernel

theorem stable_upper : Stable upperRuns upperExpansions where
  misses := by decide +kernel
  misses_expansions := by decide +kernel
  expansions_kept := by decide +kernel
  valid := by decide +kernel
  expansions_valid := by decide +kernel

end Casing

-- ── Upper case twice ──────────────────────────────────────────────────────────

/-- What an upper case consists of, if one or several characters, is in upper case. -/
theorem upperChar_of_mem {a c : Char} (h : c ∈ upperChar a) : upperChar c = [c] :=
  Casing.stable_upper.mapChar_of_mem h

/-- Upper-casing twice is upper-casing once. -/
theorem upper_upper (text : String) : upper (upper text) = upper text := by
  have hkept : ∀ c ∈ text.toList.flatMap upperChar, upperChar c = [c] := by
    intro c hc
    obtain ⟨a, -, ha⟩ := List.mem_flatMap.mp hc
    exact upperChar_of_mem ha
  rw [upper, upper, String.toList_ofList, List.flatMap_congr hkept, List.flatMap_singleton']

-- ── Lower case twice ──────────────────────────────────────────────────────────

variable {c : Char} {before before' l l' : List Char}

theorem lowerChar_of_mem {a : Char} (h : c ∈ lowerChar a) : lowerChar c = [c] :=
  Casing.stable_lower.mapChar_of_mem h

/-- The capital sigma is no lower case of anything. -/
theorem ne_capitalSigma_of_lowerChar (h : lowerChar c = [c]) : c ≠ capitalSigma := by
  rintro rfl
  exact absurd h (by decide +kernel)

theorem lowerChar_of_mem_lowerFrom (h : c ∈ lowerFrom before l) : lowerChar c = [c] := by
  induction l generalizing before with
  | nil => exact nomatch h
  | cons a after ih =>
      rw [lowerFrom] at h
      rcases List.mem_append.mp h with hfirst | hrest
      · split at hfirst
        · split at hfirst
          · obtain rfl : c = 'ς' := List.mem_singleton.mp hfirst
            decide +kernel
          · obtain rfl : c = 'σ' := List.mem_singleton.mp hfirst
            decide +kernel
        · exact lowerChar_of_mem hfirst
      · exact ih hrest

/-- What is in lower case stays as it is, whatever stands before it. -/
theorem lowerFrom_eq_self (h : ∀ c ∈ l, lowerChar c = [c]) : lowerFrom before l = l := by
  induction l generalizing before with
  | nil => rfl
  | cons a after ih =>
      obtain ⟨ha, hafter⟩ := List.forall_mem_cons.mp h
      rw [lowerFrom, if_neg (ne_capitalSigma_of_lowerChar ha), ha, ih hafter]
      rfl

/-- Lower-casing twice is lower-casing once. -/
theorem lower_lower (text : String) : lower (lower text) = lower text := by
  rw [lower, lower, String.toList_ofList]
  rw [lowerFrom_eq_self fun c hc => lowerChar_of_mem_lowerFrom hc]

-- ── ASCII letters ─────────────────────────────────────────────────────────────

/-- Two characters that lower-casing treats alike, and so do its looks at neighbours. -/
structure Interchangeable (a b : Char) : Prop where
  lowerChar : lowerChar a = lowerChar b
  isCased : isCased a = isCased b
  isCaseIgnorable : isCaseIgnorable a = isCaseIgnorable b
  isSigma : a = capitalSigma ↔ b = capitalSigma

instance (a b : Char) : Decidable (Interchangeable a b) :=
  decidable_of_iff
    (lowerChar a = lowerChar b ∧ isCased a = isCased b ∧ isCaseIgnorable a = isCaseIgnorable b
      ∧ (a = capitalSigma ↔ b = capitalSigma))
    ⟨fun ⟨hlower, hcased, hignorable, hsigma⟩ => ⟨hlower, hcased, hignorable, hsigma⟩,
      fun h => ⟨h.lowerChar, h.isCased, h.isCaseIgnorable, h.isSigma⟩⟩

/-- A capital ASCII letter is one of twenty-six characters. -/
theorem exists_of_isUpper (h : c.isUpper = true) : ∃ n < 26, c = Char.ofNat (0x41 + n) := by
  simp only [Char.isUpper, decide_eq_true_eq, UInt32.le_iff_toNat_le] at h
  obtain ⟨hfrom, hto⟩ := h
  change 0x41 ≤ c.toNat at hfrom
  change c.toNat ≤ 0x5A at hto
  refine ⟨c.toNat - 0x41, by omega, ?_⟩
  rw [Nat.add_sub_cancel' hfrom, Char.ofNat_toNat]

theorem interchangeable_toLower (c : Char) : Interchangeable c.toLower c := by
  by_cases h : c.isUpper = true
  · obtain ⟨n, hn, rfl⟩ := exists_of_isUpper h
    revert n
    decide +kernel
  · rw [Char.toLower_eq_of_not_isUpper h]
    exact ⟨rfl, rfl, rfl, Iff.rfl⟩

theorem meetsCased_congr (h : List.Forall₂ Interchangeable l l') :
    meetsCased l = meetsCased l' := by
  induction h with
  | nil => rfl
  | cons hab _ ih =>
      rw [meetsCased, meetsCased, List.dropWhile_cons, List.dropWhile_cons, hab.isCaseIgnorable]
      split
      · exact ih
      · exact hab.isCased

theorem lowerFrom_congr (hbefore : List.Forall₂ Interchangeable before before')
    (h : List.Forall₂ Interchangeable l l') : lowerFrom before l = lowerFrom before' l' := by
  induction h generalizing before before' with
  | nil => rfl
  | @cons a b after after' hab hafter ih =>
      have hfinal : sigmaIsFinal before after = sigmaIsFinal before' after' := by
        rw [sigmaIsFinal, sigmaIsFinal, meetsCased_congr hbefore, meetsCased_congr hafter]
      rw [lowerFrom, lowerFrom, hfinal, hab.lowerChar, ih (.cons hab hbefore)]
      simp only [hab.isSigma]

/-- The case of ASCII letters does not matter to the lower case of a text. -/
theorem lower_toLower (text : String) : lower text.toLower = lower text := by
  rw [lower, lower, String.toLower, String.toList_map]
  refine congrArg String.ofList (lowerFrom_congr .nil ?_)
  rw [List.forall₂_map_left_iff, List.forall₂_same]
  exact fun c _ => interchangeable_toLower c

end SqlText.Text
