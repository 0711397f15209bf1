import Mathlib.Algebra.Order.Monoid.Defs
import Mathlib.Data.List.MinMax

/-! A scan that considers some items of a list and keeps one of them until a
later one is preferred to it. The preference need be no order, so what is kept
depends on the order of the list. -/
namespace Osxrdp.Scan

section Chains
variable {α : Type} {considers : α → Prop} {prefers : α → α → Prop} {item last : α} {items later rest : List α}

/-- Through the list from an item that is kept: `last` is what is left when each
item is kept until a later one is preferred to it, and `rest` comes behind it. -/
inductive Leads (considers : α → Prop) (prefers : α → α → Prop) : α → List α → α → List α → Prop
  | stays (item : α) (rest : List α) (passed : ∀ other ∈ rest, considers other → ¬ prefers other item) :
      Leads considers prefers item rest item rest
  | gives (item next last : α) (skipped later rest : List α)
      (passed : ∀ other ∈ skipped, considers other → ¬ prefers other item) (considered : considers next)
      (preferred : prefers next item) (onward : Leads considers prefers next later last rest) :
      Leads considers prefers item (skipped ++ next :: later) last rest

/-- What leads passes over the rest. -/
theorem Leads.passed (leads : Leads considers prefers item later last rest) :
    ∀ other ∈ rest, considers other → ¬ prefers other last := by
  induction leads with
  | stays item rest passed => exact passed
  | gives item next last skipped later rest passed considered preferred onward ih => exact ih

/-- What leads stands somewhere in the list. -/
theorem Leads.split (leads : Leads considers prefers item later last rest) :
    ∃ seen, item :: later = seen ++ last :: rest := by
  induction leads with
  | stays item rest passed => exact ⟨[], rfl⟩
  | gives item next last skipped later rest passed considered preferred onward ih =>
    obtain ⟨seen, same⟩ := ih
    exact ⟨item :: skipped ++ seen, by rw [same, List.cons_append, List.cons_append, List.append_assoc]⟩

/-- An item that is passed over may come in front. -/
theorem Leads.skip {other : α} (leads : Leads considers prefers item later last rest)
    (passed : considers other → ¬ prefers other item) :
    ∃ rest, Leads considers prefers item (other :: later) last rest := by
  cases leads with
  | stays _ _ passedLater => exact ⟨_, .stays item _ (List.forall_mem_cons.mpr ⟨passed, passedLater⟩)⟩
  | gives _ next _ skipped later rest passedLater considered preferred onward =>
    exact ⟨rest, .gives item next last (other :: skipped) later rest (List.forall_mem_cons.mpr ⟨passed, passedLater⟩)
      considered preferred onward⟩

end Chains

section Keeping
variable {α : Type} (considers : α → Prop) [DecidablePred considers]
  (prefers : α → α → Prop) [DecidableRel prefers]

/-- The item that is left of a list; `prefers next kept` replaces the kept one. -/
def kept (items : List α) : Option α := (items.filter considers).foldl (List.argAux prefers) none

variable {considers prefers} {items : List α} {item best : α}

/-- Nothing is kept when nothing is considered. -/
theorem kept_eq_none : kept considers prefers items = none ↔ ∀ item ∈ items, ¬ considers item := by
  simp [kept, List.filter_eq_nil_iff]

/-- An item that is not considered changes nothing. -/
theorem kept_skips (ignored : ¬ considers item) :
    kept considers prefers (items ++ [item]) = kept considers prefers items := by
  simp [kept, List.filter_append, ignored]

/-- The first item considered is kept. -/
theorem kept_first (considered : considers item) (nothing : kept considers prefers items = none) :
    kept considers prefers (items ++ [item]) = some item := by
  unfold kept at nothing ⊢
  rw [List.filter_append, List.filter_cons_of_pos (by simpa using considered), List.foldl_append, nothing]
  rfl

/-- A later item is kept when it is preferred. -/
theorem kept_next (considered : considers item) (earlier : kept considers prefers items = some best) :
    kept considers prefers (items ++ [item]) = if prefers item best then some item else some best := by
  unfold kept at earlier ⊢
  rw [List.filter_append, List.filter_cons_of_pos (by simpa using considered), List.foldl_append, earlier]
  rfl

/-- What is kept is an item that is considered. -/
theorem kept_mem (found : kept considers prefers items = some best) : best ∈ items ∧ considers best := by
  induction items using List.reverseRecOn with
  | nil => cases found
  | append_singleton items item ih =>
    have before : kept considers prefers items = some best → best ∈ items ++ [item] ∧ considers best :=
      fun earlier => ⟨List.mem_append_left _ (ih earlier).1, (ih earlier).2⟩
    by_cases considered : considers item
    · have here : best = item → best ∈ items ++ [item] ∧ considers best := by
        rintro rfl
        exact ⟨List.mem_concat_self, considered⟩
      cases earlier : kept considers prefers items with
      | none =>
        rw [kept_first considered earlier] at found
        exact here (Option.some.inj found).symm
      | some other =>
        rw [kept_next considered earlier] at found
        split at found
        · exact here (Option.some.inj found).symm
        · exact before (earlier.trans found)
    · rw [kept_skips considered] at found
      exact before found

/-- An item that is preferred to all but its own kind settles the scan, when
nothing of another kind is preferred to its kind. -/
theorem kept_settles (Kind : α → Prop) (member : item ∈ items) (considered : considers item)
    (kind : Kind item) (wins : ∀ other ∈ items, considers other → Kind other ∨ prefers item other)
    (stays : ∀ other ∈ items, considers other → ∀ next ∈ items, considers next →
      Kind other → prefers next other → Kind next) :
    ∃ best, kept considers prefers items = some best ∧ Kind best := by
  induction items using List.reverseRecOn with
  | nil => cases member
  | append_singleton items last ih =>
    have winsBefore := fun other among => wins other (List.mem_append_left _ among)
    have staysBefore := fun other among considered next later =>
      stays other (List.mem_append_left _ among) considered next (List.mem_append_left _ later)
    by_cases taken : considers last
    · cases earlier : kept considers prefers items with
      | none =>
        have isLast : item = last := by
          obtain before | last := List.mem_append.mp member
          · exact absurd considered (kept_eq_none.mp earlier item before)
          · exact List.mem_singleton.mp last
        exact ⟨last, kept_first taken earlier, isLast ▸ kind⟩
      | some other =>
        have otherConsidered := (kept_mem earlier).2
        have among := List.mem_append_left [last] (kept_mem earlier).1
        rw [kept_next taken earlier]
        obtain before | last := List.mem_append.mp member
        · obtain ⟨best, same, good⟩ := ih before winsBefore staysBefore
          cases earlier.symm.trans same
          split
          · exact ⟨_, rfl, stays _ among otherConsidered _ List.mem_concat_self taken good ‹_›⟩
          · exact ⟨_, rfl, good⟩
        · cases List.mem_singleton.mp last
          split
          · exact ⟨_, rfl, kind⟩
          · exact ⟨_, rfl, (wins other among otherConsidered).resolve_right ‹_›⟩
    · obtain before | last := List.mem_append.mp member
      · rw [kept_skips taken]
        exact ih before winsBefore staysBefore
      · cases List.mem_singleton.mp last
        exact absurd considered taken

end Keeping

section TwoPasses
variable {α : Type} {considers near : α → Prop} [DecidablePred considers] [DecidablePred near]
  {close loose : α → α → Prop} [DecidableRel close] [DecidableRel loose]

/-- One preference for two scans: of the near items, and of all of them. -/
def Either (near : α → Prop) (close loose : α → α → Prop) (next kept : α) : Prop :=
  (near kept ∧ near next ∧ close next kept) ∨ (¬ near kept ∧ loose next kept)

instance : DecidableRel (Either near close loose) := fun _ _ => inferInstanceAs (Decidable (_ ∨ _))

/-- Scanning the near items, and all of them when none is near, is one scan. -/
theorem kept_two_passes (wins : ∀ next kept, near next → ¬ near kept → loose next kept) (items : List α) :
    (kept (fun item => considers item ∧ near item) close items).or (kept considers loose items) =
      kept considers (Either near close loose) items := by
  induction items using List.reverseRecOn with
  | nil => rfl
  | append_singleton items item ih =>
    by_cases considered : considers item
    · cases first : kept (fun item => considers item ∧ near item) close items with
      | some best =>
        have isNear := (kept_mem first).2.2
        rw [first, Option.some_or] at ih
        rw [kept_next considered ih.symm]
        by_cases isNext : near item
        · rw [kept_next ⟨considered, isNext⟩ first]
          by_cases replaced : close item best
          · rw [if_pos replaced, if_pos (.inl ⟨isNear, isNext, replaced⟩), Option.some_or]
          · rw [if_neg replaced, if_neg (by simp [Either, isNear, replaced]), Option.some_or]
        · rw [kept_skips (fun both => isNext both.2), first, if_neg (by simp [Either, isNear, isNext]),
            Option.some_or]
      | none =>
        have far := kept_eq_none.mp first
        rw [first, Option.none_or] at ih
        by_cases isNext : near item
        · rw [kept_first ⟨considered, isNext⟩ first, Option.some_or]
          cases second : kept considers loose items with
          | none => rw [kept_first considered (ih.symm.trans second)]
          | some best =>
            have isFar : ¬ near best := fun both =>
              far best (kept_mem second).1 ⟨(kept_mem second).2, both⟩
            rw [kept_next considered (ih.symm.trans second), if_pos (.inr ⟨isFar, wins item best isNext isFar⟩)]
        · rw [kept_skips (fun both => isNext both.2), first, Option.none_or]
          cases second : kept considers loose items with
          | none => rw [kept_first considered second, kept_first considered (ih.symm.trans second)]
          | some best =>
            have isFar : ¬ near best := fun both =>
              far best (kept_mem second).1 ⟨(kept_mem second).2, both⟩
            rw [kept_next considered second, kept_next considered (ih.symm.trans second)]
            simp [Either, isFar]
    · rw [kept_skips considered, kept_skips (fun both => considered both.1), kept_skips considered, ih]

end TwoPasses

section Slack
variable {α K : Type} [AddCommGroup K] [LinearOrder K]
  (considers : α → Prop) [DecidablePred considers] (prefers : α → α → Prop) [DecidableRel prefers]
  (cost : α → K) (slack : K)

/-- What is kept costs less than the slack above every item considered. -/
def Within (items : List α) : Prop :=
  ∀ best, kept considers prefers items = some best → ∀ other ∈ items, considers other →
    cost best < cost other + slack

/-- Neither taking the next item nor passing it over exceeds the slack. -/
def Keeps (seen : List α) (best next : α) : Prop :=
  (prefers next best → ∀ other ∈ seen, considers other → cost next < cost other + slack) ∧
    (¬ prefers next best → cost best < cost next + slack)

variable {considers prefers cost slack} {items seen : List α} {best next : α}

theorem within_skips (ignored : ¬ considers next) (within : Within considers prefers cost slack seen) :
    Within considers prefers cost slack (seen ++ [next]) := by
  intro best found other among considered
  rw [kept_skips ignored] at found
  obtain before | last := List.mem_append.mp among
  · exact within best found other before considered
  · cases List.mem_singleton.mp last
    exact absurd considered ignored

variable [IsOrderedAddMonoid K]

theorem within_first (positive : 0 < slack) (taken : considers next)
    (nothing : kept considers prefers seen = none) : Within considers prefers cost slack (seen ++ [next]) := by
  intro best found other among considered
  rw [kept_first taken nothing] at found
  cases found
  obtain before | last := List.mem_append.mp among
  · exact absurd considered (kept_eq_none.mp nothing other before)
  · cases List.mem_singleton.mp last
    exact lt_add_of_pos_right _ positive

theorem within_next_iff (positive : 0 < slack) (taken : considers next)
    (earlier : kept considers prefers seen = some best) (within : Within considers prefers cost slack seen) :
    Within considers prefers cost slack (seen ++ [next]) ↔
      Keeps considers prefers cost slack seen best next := by
  have found := kept_next taken earlier
  constructor
  · intro after
    constructor
    · intro preferred other among considered
      rw [if_pos preferred] at found
      exact after next found other (List.mem_append_left _ among) considered
    · intro passed
      rw [if_neg passed] at found
      exact after best found next List.mem_concat_self taken
  · intro keeps kept now other among considered
    by_cases preferred : prefers next best
    · rw [if_pos preferred] at found
      cases found.symm.trans now
      obtain before | last := List.mem_append.mp among
      · exact keeps.1 preferred other before considered
      · cases List.mem_singleton.mp last
        exact lt_add_of_pos_right _ positive
    · rw [if_neg preferred] at found
      cases found.symm.trans now
      obtain before | last := List.mem_append.mp among
      · exact within best earlier other before considered
      · cases List.mem_singleton.mp last
        exact keeps.2 preferred

/-- A scan stays within the slack throughout when each of its steps does. -/
theorem within_throughout_iff (positive : 0 < slack) :
    (∀ seen, seen <+: items → Within considers prefers cost slack seen) ↔
    ∀ seen next best, seen ++ [next] <+: items → considers next → kept considers prefers seen = some best →
      Keeps considers prefers cost slack seen best next := by
  constructor
  · intro throughout seen next best upTo taken earlier
    have before := throughout seen ((List.prefix_append seen [next]).trans upTo)
    exact (within_next_iff positive taken earlier before).mp (throughout _ upTo)
  · intro steps seen
    induction seen using List.reverseRecOn with
    | nil =>
      intro _ best found
      cases found
    | append_singleton seen next ih =>
      intro upTo
      have before := ih ((List.prefix_append seen [next]).trans upTo)
      by_cases taken : considers next
      · cases earlier : kept considers prefers seen with
        | none => exact within_first positive taken earlier
        | some best =>
          apply (within_next_iff positive taken earlier before).mpr
          exact steps seen next best upTo taken earlier
      · exact within_skips taken before

end Slack

end Osxrdp.Scan
