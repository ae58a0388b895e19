import Formicary.Proofs.World.Regions

/-!
# Rules for worlds

A rule says what it asks of a world and what may be reported of a world that breaks it. Worlds are
checked by several rules in a fixed order, and what such a check comes to is a verdict
(`Verdict`): an error that is reported for the first rule that is broken, or a value if no rule is
broken. Checks that are made one after the other have the verdict of their rules one after the
other (`Verdict.bind`, `Verdict.guard`).

The basic rules, which hold for every world, are `WorldMap.basicRules`.
-/

namespace Formicary

/-- A rule for a world. -/
structure Rule where
  /-- What the rule asks for. -/
  Kept : Prop
  /-- What may be reported where the rule is broken. -/
  Reports : WorldError → Prop

/-- What it comes to to check rules in the order in which they are listed. -/
inductive Verdict {α : Type} : List Rule → Except WorldError α → Prop
  /-- No rule is left. -/
  | pass (a : α) : Verdict [] (.ok a)
  /-- The first rule is broken, and this is reported. -/
  | breach {rule : Rule} {rules : List Rule} {e : WorldError} (hbroken : ¬rule.Kept)
      (hreports : rule.Reports e) : Verdict (rule :: rules) (.error e)
  /-- The first rule is kept, and the others are checked. -/
  | next {rule : Rule} {rules : List Rule} {result : Except WorldError α} (hkept : rule.Kept)
      (hrules : Verdict rules result) : Verdict (rule :: rules) result

namespace Verdict

variable {α β : Type} {rule : Rule} {rules rules' : List Rule} {result : Except WorldError α}
  {check : α → Except WorldError β} {e : WorldError}

/-- A check without an error is one in which all rules are kept. -/
theorem exists_ok_iff (h : Verdict rules result) :
    (∃ a, result = .ok a) ↔ ∀ rule ∈ rules, rule.Kept := by
  induction h with
  | pass a => simp
  | breach hbroken _ => simp [hbroken]
  | next hkept _ ih => rw [ih, List.forall_mem_cons, and_iff_right hkept]

/-- A check without a value is passed if and only if all rules are kept. -/
theorem eq_ok_iff {result : Except WorldError Unit} (h : Verdict rules result) :
    result = .ok () ↔ ∀ rule ∈ rules, rule.Kept := by
  rw [← h.exists_ok_iff]
  exact ⟨fun hok => ⟨(), hok⟩, fun ⟨_, hok⟩ => hok⟩

/-- A rule that is broken is reported if all rules before it are kept. -/
theorem exists_report (h : Verdict (rules ++ rule :: rules') result)
    (hkept : ∀ rule ∈ rules, rule.Kept) (hbroken : ¬rule.Kept) :
    ∃ e, rule.Reports e ∧ result = .error e := by
  induction rules with
  | nil =>
    cases h with
    | breach _ hreports => exact ⟨_, hreports, rfl⟩
    | next hkept _ => exact absurd hkept hbroken
  | cons first rules ih =>
    -- The first rule is kept, so nothing is reported for it.
    obtain ⟨hfirst, hrest⟩ := List.forall_mem_cons.1 hkept
    cases h with
    | breach hbroken _ => exact absurd hfirst hbroken
    | next _ h => exact ih h hrest

/-- Rules of which each reports one thing at most have one verdict. -/
theorem unique {result result' : Except WorldError Unit}
    (hreports : ∀ rule ∈ rules, ∀ e e', rule.Reports e → rule.Reports e' → e = e')
    (h : Verdict rules result) (h' : Verdict rules result') : result = result' := by
  induction h with
  | pass a =>
    cases h'
    rfl
  | breach hbroken he =>
    cases h' with
    | breach _ he' => rw [hreports _ List.mem_cons_self _ _ he he']
    | next hkept _ => exact absurd hkept hbroken
  | next hkept _ ih =>
    cases h' with
    | breach hbroken _ => exact absurd hkept hbroken
    | next _ h' => exact ih (fun rule hrule => hreports rule (List.mem_cons_of_mem _ hrule)) h'

/-- A check that is followed by another one checks the rules of both. -/
theorem bind (h : Verdict rules result) (hcheck : ∀ a, result = .ok a → Verdict rules' (check a)) :
    Verdict (rules ++ rules') (result >>= check) := by
  induction h with
  | pass a => exact hcheck a rfl
  | breach hbroken hreports => exact .breach hbroken hreports
  | next hkept _ ih => exact .next hkept (ih hcheck)

/-- A value that is known already is passed on. -/
theorem ok_bind {a : α} (h : Verdict rules (check a)) : Verdict rules (Except.ok a >>= check) := h

/-- A condition that is reported if it holds, and leads to more checks if it does not, checks a
rule that is broken just then. -/
theorem guard {c : Prop} [Decidable c] {k : Unit → Except WorldError α} (hkept : rule.Kept ↔ ¬c)
    (hreports : rule.Reports e) (h : Verdict rules (k ())) :
    Verdict (rule :: rules) (if c then throw e >>= k else k ()) := by
  by_cases hc : c
  · rw [if_pos hc]
    exact .breach (fun hk => hkept.1 hk hc) hreports
  · rw [if_neg hc]
    exact .next (hkept.2 hc) h

end Verdict

namespace WorldMap

variable {world : WorldMap}

/-! ### Basic rules -/

/-- The edge of the world is rock. -/
def enclosureRule (world : WorldMap) : Rule where
  Kept := ∀ x ∈ world.edge, world.tile? x = some .rock
  Reports e := e = .notEnclosedByRock

/-- A colony has a hill. -/
def hillRule (world : WorldMap) (color : Color) : Rule where
  Kept := ∃ x, world.tile? x = some (.hill color)
  Reports e := e = .missingHill color

/-- There is food. -/
def foodRule (world : WorldMap) : Rule where
  Kept := ∃ x amount, world.tile? x = some (.food amount)
  Reports e := e = .missingFood

/-- The rules that hold for every world, in the order in which they are checked. -/
def basicRules (world : WorldMap) : List Rule :=
  [world.enclosureRule, world.hillRule .red, world.hillRule .black, world.foodRule]

/-- The tiles of a world are those of its cells. -/
theorem containsTile_iff (hworld : world.WellFormed) {p : Tile → Bool} :
    world.containsTile p = true ↔ ∃ x tile, world.tile? x = some tile ∧ p tile = true := by
  constructor
  · intro h
    obtain ⟨i, hi, hp⟩ := Array.any_eq_true.1 h
    obtain ⟨x, hx⟩ := exists_tile?_of_mem hworld (Array.getElem_mem hi)
    exact ⟨x, _, hx, hp⟩
  · rintro ⟨x, tile, hx, hp⟩
    exact containsTile_of_tile? hx hp

/-- The basic rules are checked in their order. -/
theorem verdict_checkBasics (hworld : world.WellFormed) (hwidth : 0 < world.width)
    (hheight : 0 < world.height) : Verdict world.basicRules world.checkBasics := by
  have hhill : ∀ color, (world.hillRule color).Kept ↔
      ¬(!world.containsTile (· = .hill color)) = true := by
    intro color
    simp [hillRule, containsTile_iff hworld]
  have hfood : world.foodRule.Kept ↔ ¬(!world.containsTile Tile.isFood) = true := by
    have hisFood : ∀ tile : Tile, tile.isFood = true ↔ ∃ amount, tile = .food amount := by
      intro tile
      cases tile <;> simp [Tile.isFood]
    simp only [foodRule, Bool.not_eq_true, Bool.not_eq_false', containsTile_iff hworld, hisFood]
    constructor
    · rintro ⟨x, amount, hx⟩
      exact ⟨x, _, hx, amount, rfl⟩
    · rintro ⟨x, _, hx, amount, rfl⟩
      exact ⟨x, amount, hx⟩
  unfold checkBasics
  refine .guard ?_ rfl (.guard (hhill .red) rfl (.guard (hhill .black) rfl ?_))
  · rw [Bool.not_eq_true, Bool.not_eq_false', enclosed_iff hworld hwidth hheight]
    exact Iff.rfl
  · exact .guard (k := pure) hfood rfl (.pass ())

end WorldMap

end Formicary
