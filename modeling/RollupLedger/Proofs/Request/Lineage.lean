import Mathlib.Data.List.Induction
import Mathlib.Logic.Relation
import Mathlib.Order.Bounds.Basic
import RollupLedger.Context

/-!
# Contexts and where they come from

Contexts are made, copied, derived from one another, given deadlines and cancelled, in any order.
What came of it is told by the deeds alone, without tokens and their paths: which contexts bear the
same token (`Bears`), which tokens were derived from which (`Parent`), and which deadlines were set
along the derivation of a context (`Applied`). The main statement (`Scopes.tells_lineage`) is that
tokens and deadlines tell just that.
-/

set_option autoImplicit false
set_option relaxedAutoImplicit false

namespace RollupLedger

/-! ### Deeds -/

/-- Something that is done with contexts. A number stands for what the deed at that place gave. A
token that is held outside of contexts is given like a context, and `adopt` makes a context of it.
`limit` sets a deadline, `hurry` one that is a timeout from now. -/
inductive Deed where
  | new
  | adopt (source : Nat)
  | clone (source : Nat)
  | child (parent : Nat)
  | limit (source deadline : Nat)
  | hurry (source now timeout : Nat)
  | cancel (target : Nat)
deriving DecidableEq

/-- What each deed has given so far. -/
structure Scopes where
  tokens : Tokens
  made : List (Option Context)

namespace Scopes

def empty : Scopes := ⟨.empty, []⟩

def given (s : Scopes) (place : Nat) : Option Context := s.made[place]?.join

/-- What a deed gives, and the tokens after it. A deed that refers to nothing does nothing. -/
def perform (s : Scopes) : Deed → Option Context × Tokens
  | .new => (some (.ofToken s.tokens.fresh.1), s.tokens.fresh.2)
  | .adopt source => ((s.given source).map fun c ↦ .ofToken c.token, s.tokens)
  | .clone source => (s.given source, s.tokens)
  | .child parent =>
    match s.given parent with
    | some c => (some (c.child s.tokens).1, (c.child s.tokens).2)
    | none => (none, s.tokens)
  | .limit source deadline => ((s.given source).map (·.withDeadline deadline), s.tokens)
  | .hurry source now timeout => ((s.given source).map (·.withTimeout now timeout), s.tokens)
  | .cancel target =>
    match s.given target with
    | some c => (none, s.tokens.cancel c.token)
    | none => (none, s.tokens)

def act (s : Scopes) (deed : Deed) : Scopes :=
  ⟨(s.perform deed).2, s.made ++ [(s.perform deed).1]⟩

def run (deeds : List Deed) : Scopes := deeds.foldl act empty

end Scopes

/-! ### What the deeds tell -/

/-- The deed gives a context of the same token as the source. -/
inductive Deed.Shares : Deed → Nat → Prop
  | adopt (source : Nat) : Shares (.adopt source) source
  | clone (source : Nat) : Shares (.clone source) source
  | limit (source deadline : Nat) : Shares (.limit source deadline) source
  | hurry (source now timeout : Nat) : Shares (.hurry source now timeout) source

/-- The deed derives a context from the source, with the deadlines that were set there. -/
inductive Deed.Derives : Deed → Nat → Prop
  | clone (source : Nat) : Derives (.clone source) source
  | child (parent : Nat) : Derives (.child parent) parent
  | limit (source deadline : Nat) : Derives (.limit source deadline) source
  | hurry (source now timeout : Nat) : Derives (.hurry source now timeout) source

/-- The deed sets a deadline for what it derives. -/
inductive Deed.Sets : Deed → Nat → Prop
  | limit (source deadline : Nat) : Sets (.limit source deadline) deadline
  | hurry (source now timeout : Nat) : Sets (.hurry source now timeout) (now + timeout)

theorem Deed.Shares.unique {deed : Deed} {first second : Nat} (hfirst : deed.Shares first)
    (hsecond : deed.Shares second) : first = second := by
  cases hfirst <;> cases hsecond <;> rfl

theorem Deed.Derives.unique {deed : Deed} {first second : Nat} (hfirst : deed.Derives first)
    (hsecond : deed.Derives second) : first = second := by
  cases hfirst <;> cases hsecond <;> rfl

namespace Lineage

variable (deeds : List Deed)

/-- The context given at one place bears the token that was made at the other. -/
inductive Bears : Nat → Nat → Prop
  | new {place : Nat} (hdeed : deeds[place]? = some .new) : Bears place place
  | child {place parent maker : Nat} (hdeed : deeds[place]? = some (.child parent))
    (hlt : parent < place) (hbears : Bears parent maker) : Bears place place
  | share {place source maker : Nat} {deed : Deed} (hdeed : deeds[place]? = some deed)
    (hshares : deed.Shares source) (hlt : source < place) (hbears : Bears source maker) :
    Bears place maker

/-- The token made at one place is a child of the token made at the other. -/
def Parent (place maker : Nat) : Prop :=
  ∃ parent, deeds[place]? = some (.child parent) ∧ parent < place ∧ Bears deeds parent maker

/-- The token made at one place is that made at the other or descends from it. -/
def Descends : Nat → Nat → Prop := Relation.ReflTransGen (Parent deeds)

/-- Something that bears the token, or one from which it descends, was cancelled. -/
def Revoked (maker : Nat) : Prop :=
  ∃ step target ancestor, deeds[step]? = some (.cancel target) ∧ target < step ∧
    Bears deeds target ancestor ∧ Descends deeds maker ancestor

/-- The context given at one place was derived directly from that at the other. -/
def DerivedFrom (place source : Nat) : Prop :=
  ∃ deed : Deed, deeds[place]? = some deed ∧ deed.Derives source ∧ source < place ∧
    ∃ maker, Bears deeds source maker

/-- A deadline was set along the derivation of the context that is given at a place. -/
inductive Applied : Nat → Nat → Prop
  | set {place source deadline : Nat} {deed : Deed} (hdeed : deeds[place]? = some deed)
    (hsets : deed.Sets deadline) (hderived : DerivedFrom deeds place source) :
    Applied place deadline
  | keep {place source deadline : Nat} (hderived : DerivedFrom deeds place source)
    (happlied : Applied source deadline) : Applied place deadline

end Lineage

theorem Context.withDeadline_comm (context : Context) (first second : Nat) :
    (context.withDeadline first).withDeadline second =
      (context.withDeadline second).withDeadline first := by
  obtain ⟨token, deadline⟩ := context
  cases deadline with
  | none => exact congrArg (fun least ↦ Context.mk token (some least)) (Nat.min_comm _ _)
  | some existing =>
    exact congrArg (fun least ↦ Context.mk token (some least)) (Nat.min_right_comm _ _ _)

/-! ### Runs by places -/

namespace Scopes

open Lineage

variable {deeds : List Deed} {place source maker : Nat} {deed : Deed}

theorem run_concat (deeds : List Deed) (deed : Deed) :
    run (deeds ++ [deed]) = (run deeds).act deed :=
  List.foldl_append

theorem length_made (deeds : List Deed) : (run deeds).made.length = deeds.length := by
  induction deeds using List.reverseRecOn with
  | nil => rfl
  | append_singleton deeds deed ih =>
    rw [run_concat, act, List.length_append, List.length_append, ih]
    rfl

theorem given_concat_of_lt (hlt : place < deeds.length) :
    (run (deeds ++ [deed])).given place = (run deeds).given place := by
  have hmade : place < (run deeds).made.length := (length_made deeds).symm ▸ hlt
  rw [run_concat, act, given, List.getElem?_append_left hmade, given]

theorem given_concat_length (deeds : List Deed) (deed : Deed) :
    (run (deeds ++ [deed])).given deeds.length = ((run deeds).perform deed).1 := by
  rw [run_concat, act, given, ← length_made, List.getElem?_concat_length]
  rfl

theorem given_of_le (hle : deeds.length ≤ place) : (run deeds).given place = none := by
  rw [given, List.getElem?_eq_none (by rw [length_made]; exact hle)]
  rfl

theorem lt_length_of_given {context : Context} (hgiven : (run deeds).given place = some context) :
    place < deeds.length := by
  by_contra hge
  rw [given_of_le (by omega)] at hgiven
  cases hgiven

/-- What is given at a place does not depend on later deeds. -/
theorem given_append (later : List Deed) (hlt : place < deeds.length) :
    (run (deeds ++ later)).given place = (run deeds).given place := by
  induction later using List.reverseRecOn with
  | nil => rw [List.append_nil]
  | append_singleton later deed ih =>
    rw [← List.append_assoc, given_concat_of_lt (by rw [List.length_append]; omega), ih]

theorem given_take {n : Nat} (hlt : place < n) :
    (run (deeds.take n)).given place = (run deeds).given place := by
  by_cases hplace : place < deeds.length
  · conv_rhs => rw [← List.take_append_drop n deeds]
    exact (given_append _ (by rw [List.length_take]; omega)).symm
  · rw [given_of_le (by rw [List.length_take]; omega), given_of_le (by omega)]

/-- What a deed gives is what it gives after the deeds before it. -/
theorem given_eq (hdeed : deeds[place]? = some deed) :
    (run deeds).given place = ((run (deeds.take place)).perform deed).1 := by
  have hlt : place < deeds.length := (List.getElem?_eq_some_iff.mp hdeed).1
  have hlength : (deeds.take place).length = place := by rw [List.length_take]; omega
  have htake : deeds.take (place + 1) = deeds.take place ++ [deed] := by
    rw [List.take_add_one, hdeed]
    rfl
  have hconcat := given_concat_length (deeds.take place) deed
  rwa [hlength, ← htake, given_take place.lt_succ_self] at hconcat

/-- The name of a token that is made at a place. -/
def nameAt (deeds : List Deed) (place : Nat) : Nat := (run (deeds.take place)).tokens.next

theorem next_le_act (s : Scopes) (deed : Deed) : s.tokens.next ≤ (s.act deed).tokens.next := by
  cases deed with
  | new => exact Nat.le_succ _
  | child parent =>
    rw [act, perform]
    split
    · exact Nat.le_succ _
    · exact Nat.le_refl _
  | cancel target =>
    rw [act, perform]
    split
    · exact Nat.le_refl _
    · exact Nat.le_refl _
  | _ => exact Nat.le_refl _

theorem nameAt_mono {first second : Nat} (hle : first ≤ second) :
    nameAt deeds first ≤ nameAt deeds second := by
  induction hle with
  | refl => exact Nat.le_refl _
  | @step second _ ih =>
    refine ih.trans ?_
    rw [nameAt, nameAt, List.take_add_one]
    cases deeds[second]? with
    | none => simp
    | some deed =>
      simp only [Option.toList_some, run_concat]
      exact next_le_act _ _

/-- Whatever is made later has another name. -/
theorem nameAt_lt {first second : Nat} {context : Context} (hlt : first < second)
    (hmakes : deeds[first]? = some .new ∨ ∃ parent, deeds[first]? = some (.child parent))
    (hgiven : (run deeds).given first = some context) :
    nameAt deeds first < nameAt deeds second := by
  refine Nat.lt_of_lt_of_le ?_ (nameAt_mono (Nat.succ_le_of_lt hlt))
  rcases hmakes with hdeed | ⟨parent, hdeed⟩
  · simp only [nameAt, Nat.succ_eq_add_one, List.take_add_one, hdeed, Option.toList_some,
      run_concat]
    exact Nat.lt_succ_self _
  · rw [given_eq hdeed, perform] at hgiven
    simp only [nameAt, Nat.succ_eq_add_one, List.take_add_one, hdeed, Option.toList_some,
      run_concat, act, perform]
    split
    · exact Nat.lt_succ_self _
    · rename_i hnone
      rw [hnone] at hgiven
      cases hgiven

/-! ### What is given -/

theorem given_new (hdeed : deeds[place]? = some .new) :
    (run deeds).given place = some (.ofToken ⟨[nameAt deeds place]⟩) := given_eq hdeed

theorem given_child {parent : Nat} {context : Context}
    (hdeed : deeds[place]? = some (.child parent)) (hlt : parent < place)
    (hgiven : (run deeds).given parent = some context) :
    (run deeds).given place =
      some ⟨⟨nameAt deeds place :: context.token.path⟩, context.deadline⟩ := by
  rw [given_eq hdeed, perform, given_take hlt, hgiven]
  rfl

/-- A deed that shares a token changes nothing else than the deadline. -/
theorem perform_of_shares (hshares : deed.Shares source) :
    ∃ change : Context → Context, (∀ context, (change context).token = context.token) ∧
      ∀ s : Scopes, (s.perform deed).1 = (s.given source).map change := by
  cases hshares with
  | adopt => exact ⟨fun c ↦ .ofToken c.token, fun _ ↦ rfl, fun _ ↦ rfl⟩
  | clone => exact ⟨id, fun _ ↦ rfl, fun s ↦ (Option.map_id_apply).symm⟩
  | limit _ deadline => exact ⟨(·.withDeadline deadline), fun _ ↦ rfl, fun _ ↦ rfl⟩
  | hurry _ now timeout => exact ⟨(·.withTimeout now timeout), fun _ ↦ rfl, fun _ ↦ rfl⟩

theorem exists_given_share {context : Context} (hdeed : deeds[place]? = some deed)
    (hshares : deed.Shares source) (hlt : source < place)
    (hgiven : (run deeds).given source = some context) :
    ∃ other, (run deeds).given place = some other ∧ other.token = context.token := by
  obtain ⟨change, htoken, hperform⟩ := perform_of_shares hshares
  refine ⟨change context, ?_, htoken context⟩
  rw [given_eq hdeed, hperform, given_take hlt, hgiven]
  rfl

/-- What refers to another context refers to an earlier one. -/
theorem given_source {context : Context}
    (hgiven : (run (deeds.take place)).given source = some context) :
    source < place ∧ (run deeds).given source = some context := by
  have hlt : source < place := by
    have := lt_length_of_given hgiven
    rw [List.length_take] at this
    omega
  exact ⟨hlt, by rwa [given_take hlt] at hgiven⟩

/-- Everything that is given bears a token that was made. -/
theorem exists_bears {context : Context} (hgiven : (run deeds).given place = some context) :
    ∃ maker, Bears deeds place maker := by
  induction place using Nat.strongRecOn generalizing context with
  | ind place ih =>
    obtain ⟨deed, hdeed⟩ : ∃ deed, deeds[place]? = some deed :=
      ⟨_, List.getElem?_eq_getElem (lt_length_of_given hgiven)⟩
    rw [given_eq hdeed] at hgiven
    have hshared {source : Nat} (hshares : deed.Shares source) :
        ∃ maker, Bears deeds place maker := by
      obtain ⟨change, -, hperform⟩ := perform_of_shares hshares
      rw [hperform] at hgiven
      obtain ⟨origin, horigin, -⟩ := Option.map_eq_some_iff.mp hgiven
      obtain ⟨hlt, hsame⟩ := given_source horigin
      obtain ⟨maker, hbears⟩ := ih source hlt hsame
      exact ⟨maker, .share hdeed hshares hlt hbears⟩
    cases deed with
    | new => exact ⟨place, .new hdeed⟩
    | child parent =>
      rw [perform] at hgiven
      split at hgiven
      · rename_i origin horigin
        obtain ⟨hlt, hsame⟩ := given_source horigin
        obtain ⟨maker, hbears⟩ := ih parent hlt hsame
        exact ⟨place, .child hdeed hlt hbears⟩
      · cases hgiven
    | cancel target =>
      rw [perform] at hgiven
      split at hgiven <;> cases hgiven
    | adopt source => exact hshared (.adopt source)
    | clone source => exact hshared (.clone source)
    | limit source deadline => exact hshared (.limit source deadline)
    | hurry source now timeout => exact hshared (.hurry source now timeout)

end Scopes

/-! ### Descent -/

namespace Lineage

variable {deeds : List Deed} {place maker other : Nat}

theorem Bears.le (hbears : Bears deeds place maker) : maker ≤ place := by
  induction hbears with
  | new => exact Nat.le_refl _
  | child => exact Nat.le_refl _
  | share _ _ hlt _ ih => exact ih.trans hlt.le

/-- What makes a token bears it. -/
theorem Bears.self (hbears : Bears deeds place maker) : Bears deeds maker maker := by
  induction hbears with
  | new hdeed => exact .new hdeed
  | child hdeed hlt hbears => exact .child hdeed hlt hbears
  | share _ _ _ _ ih => exact ih

theorem Bears.unique (hbears : Bears deeds place maker) (hother : Bears deeds place other) :
    maker = other := by
  induction hbears with
  | new hdeed =>
    cases hother with
    | new => rfl
    | child => rfl
    | share hsame hshares =>
      cases hdeed.symm.trans hsame
      cases hshares
  | child hdeed =>
    cases hother with
    | new => rfl
    | child => rfl
    | share hsame hshares =>
      cases hdeed.symm.trans hsame
      cases hshares
  | share hdeed hshares _ _ ih =>
    cases hother with
    | new hsame =>
      cases hdeed.symm.trans hsame
      cases hshares
    | child hsame =>
      cases hdeed.symm.trans hsame
      cases hshares
    | share hsame hlikewise _ hbears =>
      cases hdeed.symm.trans hsame
      exact ih (hshares.unique hlikewise ▸ hbears)

/-- A token is younger than its parent. -/
theorem Parent.lt (hparent : Parent deeds place maker) : maker < place := by
  obtain ⟨parent, -, hlt, hbears⟩ := hparent
  exact Nat.lt_of_le_of_lt hbears.le hlt

theorem Parent.unique (hparent : Parent deeds place maker) (hother : Parent deeds place other) :
    maker = other := by
  obtain ⟨parent, hdeed, -, hbears⟩ := hparent
  obtain ⟨same, hsame, -, hlikewise⟩ := hother
  cases hdeed.symm.trans hsame
  exact hbears.unique hlikewise

theorem Descends.le (hdescends : Descends deeds place maker) : maker ≤ place := by
  induction hdescends with
  | refl => exact Nat.le_refl _
  | tail _ hparent ih => exact hparent.lt.le.trans ih

/-- Neither the parent of a token nor another child of it descends from the token. -/
theorem Parent.not_descends {own parent : Nat} (hparent : Parent deeds own parent)
    (hkin : other = parent ∨ Parent deeds other parent ∧ other ≠ own) :
    ¬ Descends deeds other own := by
  intro hdescends
  rcases hkin with rfl | ⟨hsibling, hne⟩
  · exact absurd hdescends.le (by have := hparent.lt; omega)
  · rcases Relation.ReflTransGen.cases_head hdescends with rfl | ⟨next, hnext, hrest⟩
    · exact hne rfl
    · cases hsibling.unique hnext
      exact absurd (Descends.le hrest) (by have := hparent.lt; omega)

end Lineage

/-! ### Tokens tell descent -/

namespace Scopes

open Lineage

variable {deeds : List Deed} {place maker other : Nat} {context : Context}

/-- What bears a token has the token of what made it. -/
theorem exists_given_of_bears (hbears : Bears deeds place maker) :
    ∃ context origin, (run deeds).given place = some context ∧
      (run deeds).given maker = some origin ∧ context.token = origin.token := by
  induction hbears with
  | new hdeed => exact ⟨_, _, given_new hdeed, given_new hdeed, rfl⟩
  | child hdeed hlt _ ih =>
    obtain ⟨context, _, hcontext, -⟩ := ih
    exact ⟨_, _, given_child hdeed hlt hcontext, given_child hdeed hlt hcontext, rfl⟩
  | share hdeed hshares hlt _ ih =>
    obtain ⟨context, origin, hcontext, horigin, htoken⟩ := ih
    obtain ⟨other, hother, hsame⟩ := exists_given_share hdeed hshares hlt hcontext
    exact ⟨other, origin, hother, horigin, hsame.trans htoken⟩

/-- The token that was made at a place. -/
def tokenAt (deeds : List Deed) (place : Nat) : Token :=
  (((run deeds).given place).map Context.token).getD ⟨[]⟩

theorem token_eq_tokenAt (hgiven : (run deeds).given place = some context)
    (hbears : Bears deeds place maker) : context.token = tokenAt deeds maker := by
  obtain ⟨same, origin, hsame, horigin, htoken⟩ := exists_given_of_bears hbears
  cases hgiven.symm.trans hsame
  rw [htoken, tokenAt, horigin]
  rfl

theorem path_tokenAt_of_parent (hparent : Parent deeds maker other) :
    (tokenAt deeds maker).path = nameAt deeds maker :: (tokenAt deeds other).path := by
  obtain ⟨parent, hdeed, hlt, hbears⟩ := hparent
  obtain ⟨context, -, hcontext, -⟩ := exists_given_of_bears hbears
  rw [← token_eq_tokenAt hcontext hbears, tokenAt, given_child hdeed hlt hcontext]
  rfl

/-- The path of a token is its name, before the path of its parent if it has one. -/
theorem path_tokenAt (hmaker : Bears deeds maker maker) :
    (tokenAt deeds maker).path = [nameAt deeds maker] ∨ ∃ parent, Parent deeds maker parent := by
  cases hmaker with
  | new hdeed =>
    rw [tokenAt, given_new hdeed]
    exact Or.inl rfl
  | child hdeed hlt hbears => exact Or.inr ⟨_, _, hdeed, hlt, hbears⟩
  | share _ _ hlt hbears => exact absurd hbears.le (by omega)

/-- Tokens made at different places have different names. -/
theorem nameAt_inj (hmaker : Bears deeds maker maker) (hother : Bears deeds other other)
    (hsame : nameAt deeds maker = nameAt deeds other) : maker = other := by
  have hlater {first second : Nat} (hbears : Bears deeds first first) (hlt : first < second) :
      nameAt deeds first < nameAt deeds second := by
    obtain ⟨context, -, hgiven, -⟩ := exists_given_of_bears hbears
    refine nameAt_lt hlt ?_ hgiven
    cases hbears with
    | new hdeed => exact Or.inl hdeed
    | child hdeed => exact Or.inr ⟨_, hdeed⟩
    | share _ _ hbefore hsource => exact absurd hsource.le (by omega)
  rcases Nat.lt_trichotomy maker other with hlt | heq | hgt
  · exact absurd (hlater hmaker hlt) (by omega)
  · exact heq
  · exact absurd (hlater hother hgt) (by omega)

theorem suffix_of_descends (hdescends : Descends deeds maker other) :
    (tokenAt deeds other).path <:+ (tokenAt deeds maker).path := by
  induction hdescends using Relation.ReflTransGen.head_induction_on with
  | refl => exact List.suffix_refl _
  | head hparent _ ih =>
    rw [path_tokenAt_of_parent hparent]
    exact ih.trans (List.suffix_cons _ _)

/-- One token is within another exactly if it descends from it. The induction is on the place of the
one, whose path is a name before the path of its parent. -/
theorem isWithin_tokenAt_iff (hmaker : Bears deeds maker maker) (hother : Bears deeds other other) :
    (tokenAt deeds maker).isWithin (tokenAt deeds other) = true ↔ Descends deeds maker other := by
  rw [Token.isWithin, List.isSuffixOf_iff_suffix]
  refine ⟨fun hsuffix ↦ ?_, suffix_of_descends⟩
  obtain ⟨rest, hrest⟩ : ∃ rest, (tokenAt deeds other).path = nameAt deeds other :: rest := by
    rcases path_tokenAt hother with hpath | ⟨parent, hparent⟩
    · exact ⟨_, hpath⟩
    · exact ⟨_, path_tokenAt_of_parent hparent⟩
  induction maker using Nat.strongRecOn with
  | ind maker ih =>
    have hhere {names : List Nat}
        (hsame : (tokenAt deeds other).path = nameAt deeds maker :: names) :
        Descends deeds maker other := by
      rw [hrest] at hsame
      rw [nameAt_inj hmaker hother (List.cons.inj hsame).1.symm]
      exact .refl
    rcases path_tokenAt hmaker with hpath | ⟨parent, hparent⟩
    · rw [hpath] at hsuffix
      rcases List.suffix_cons_iff.mp hsuffix with hsame | hnil
      · exact hhere hsame
      · rw [List.suffix_nil.mp hnil] at hrest
        cases hrest
    · rw [path_tokenAt_of_parent hparent] at hsuffix
      rcases List.suffix_cons_iff.mp hsuffix with hsame | habove
      · exact hhere hsame
      · obtain ⟨_, _, _, hbears⟩ := id hparent
        exact .head hparent (ih parent hparent.lt hbears.self habove)

/-! ### What was cancelled -/

theorem mem_cancelled_perform (s : Scopes) (deed : Deed) {token : Token} :
    token ∈ (s.perform deed).2.cancelled ↔ token ∈ s.tokens.cancelled ∨
      ∃ target context, deed = .cancel target ∧ s.given target = some context ∧
        context.token = token := by
  cases deed with
  | cancel target =>
    cases hgiven : s.given target with
    | none => simp [perform, hgiven]
    | some context => simp [perform, hgiven, Tokens.cancel, or_comm, eq_comm]
  | child parent =>
    cases hgiven : s.given parent with
    | none => simp [perform, hgiven]
    | some context => simp [perform, hgiven, Context.child, Tokens.child]
  | _ => simp [perform, Tokens.fresh]

/-- The tokens that are cancelled are those of the contexts that were. -/
theorem mem_cancelled_iff {token : Token} :
    token ∈ (run deeds).tokens.cancelled ↔ ∃ step target context,
      deeds[step]? = some (.cancel target) ∧ target < step ∧
        (run deeds).given target = some context ∧ context.token = token := by
  induction deeds using List.reverseRecOn with
  | nil => simp [run, empty, Tokens.empty]
  | append_singleton deeds deed ih =>
    rw [run_concat, act, mem_cancelled_perform, ih, ← act, ← run_concat]
    constructor
    · rintro (⟨step, target, context, hdeed, hlt, hgiven, htoken⟩ |
        ⟨target, context, rfl, hgiven, htoken⟩)
      · have hstep : step < deeds.length := (List.getElem?_eq_some_iff.mp hdeed).1
        refine ⟨step, target, context, ?_, hlt, ?_, htoken⟩
        · rw [List.getElem?_append_left hstep, hdeed]
        · rw [given_concat_of_lt (hlt.trans hstep), hgiven]
      · have htarget := lt_length_of_given hgiven
        refine ⟨deeds.length, target, context, List.getElem?_concat_length, htarget, ?_, htoken⟩
        rw [given_concat_of_lt htarget, hgiven]
    · rintro ⟨step, target, context, hdeed, hlt, hgiven, htoken⟩
      have hstep : step < deeds.length + 1 := by
        simpa using (List.getElem?_eq_some_iff.mp hdeed).1
      rw [given_concat_of_lt (by omega)] at hgiven
      rcases Nat.lt_succ_iff_lt_or_eq.mp hstep with hearlier | rfl
      · rw [List.getElem?_append_left hearlier] at hdeed
        exact Or.inl ⟨step, target, context, hdeed, hlt, hgiven, htoken⟩
      · rw [List.getElem?_concat_length] at hdeed
        exact Or.inr ⟨target, context, Option.some.inj hdeed, hgiven, htoken⟩

/-- A context is cancelled exactly if something was that bears its token or one above it. -/
theorem isCancelled_iff (hgiven : (run deeds).given place = some context)
    (hbears : Bears deeds place maker) :
    (run deeds).tokens.isCancelled context.token = true ↔ Revoked deeds maker := by
  rw [token_eq_tokenAt hgiven hbears, Tokens.isCancelled, List.any_eq_true]
  constructor
  · rintro ⟨token, hmem, hwithin⟩
    obtain ⟨step, target, origin, hdeed, hlt, horigin, rfl⟩ := mem_cancelled_iff.mp hmem
    obtain ⟨ancestor, hancestor⟩ := exists_bears horigin
    rw [token_eq_tokenAt horigin hancestor,
      isWithin_tokenAt_iff hbears.self hancestor.self] at hwithin
    exact ⟨step, target, ancestor, hdeed, hlt, hancestor, hwithin⟩
  · rintro ⟨step, target, ancestor, hdeed, hlt, hancestor, hdescends⟩
    obtain ⟨origin, _, horigin, -⟩ := exists_given_of_bears hancestor
    refine ⟨origin.token,
      mem_cancelled_iff.mpr ⟨step, target, origin, hdeed, hlt, horigin, rfl⟩, ?_⟩
    rwa [token_eq_tokenAt horigin hancestor, isWithin_tokenAt_iff hbears.self hancestor.self]

/-- One more cancellation reaches what descends from the token that is cancelled, and nothing else.
-/
theorem isCancelled_concat_cancel {target own : Nat} (htarget : Bears deeds target own)
    (hgiven : (run deeds).given place = some context) (hbears : Bears deeds place maker) :
    (run (deeds ++ [.cancel target])).tokens.isCancelled context.token = true ↔
      (run deeds).tokens.isCancelled context.token = true ∨ Descends deeds maker own := by
  obtain ⟨origin, _, horigin, -⟩ := exists_given_of_bears htarget
  rw [run_concat, act, perform, horigin, ← isWithin_tokenAt_iff hbears.self htarget.self,
    ← token_eq_tokenAt hgiven hbears, ← token_eq_tokenAt horigin htarget]
  simp only [Tokens.isCancelled, Tokens.cancel, List.any_cons, Bool.or_eq_true]
  exact or_comm

/-! ### Deadlines -/

/-- An optional number that is the least of a set, and is absent if the set is empty. -/
def Marks (deadline : Option Nat) (numbers : Set Nat) : Prop :=
  match deadline with
  | none => numbers = ∅
  | some least => IsLeast numbers least

theorem Marks.withDeadline {numbers : Set Nat} (hmarks : Marks context.deadline numbers)
    (deadline : Nat) :
    Marks (context.withDeadline deadline).deadline (insert deadline numbers) := by
  unfold Context.withDeadline
  cases hdeadline : context.deadline with
  | none =>
    rw [hdeadline] at hmarks
    rw [show numbers = ∅ from hmarks, insert_empty_eq]
    exact isLeast_singleton
  | some existing =>
    rw [hdeadline] at hmarks
    show IsLeast (insert deadline numbers) (min existing deadline)
    rw [Nat.min_comm]
    exact IsLeast.insert deadline hmarks

theorem Marks.eq_none_iff {deadline : Option Nat} {numbers : Set Nat}
    (hmarks : Marks deadline numbers) :
    deadline = none ↔ ∀ number, number ∉ numbers := by
  cases deadline with
  | none => exact iff_of_true rfl (Set.eq_empty_iff_forall_notMem.mp hmarks)
  | some least => exact iff_of_false nofun fun habsent ↦ habsent least hmarks.1

theorem Marks.eq_some_iff {deadline : Option Nat} {numbers : Set Nat}
    (hmarks : Marks deadline numbers) {number : Nat} :
    deadline = some number ↔ IsLeast numbers number := by
  cases deadline with
  | none =>
    rw [show numbers = ∅ from hmarks]
    exact iff_of_false nofun fun hleast ↦ hleast.1
  | some least =>
    refine ⟨?_, fun hleast ↦ congrArg some (IsLeast.unique hmarks hleast)⟩
    rintro ⟨⟩
    exact hmarks

theorem Marks.exists_le {deadline : Option Nat} {numbers : Set Nat}
    (hmarks : Marks deadline numbers) {number : Nat} (hmem : number ∈ numbers) :
    ∃ least ≤ number, deadline = some least := by
  cases deadline with
  | none => exact absurd hmem (Set.eq_empty_iff_forall_notMem.mp hmarks number)
  | some least => exact ⟨least, hmarks.2 hmem, rfl⟩

end Scopes

namespace Lineage

variable {deeds : List Deed} {place source : Nat} {deed : Deed}

/-- Along a derivation there are the deadlines of the source, and the one that is set with it. -/
theorem applied_iff (hdeed : deeds[place]? = some deed) (hderived : DerivedFrom deeds place source)
    {deadline : Nat} :
    Applied deeds place deadline ↔ deed.Sets deadline ∨ Applied deeds source deadline := by
  constructor
  · rintro (⟨hsame, hsets, -⟩ | ⟨hother, happlied⟩)
    · cases hdeed.symm.trans hsame
      exact Or.inl hsets
    · obtain ⟨first, hfirst, hderives, -⟩ := hderived
      obtain ⟨second, hsecond, hlikewise, -⟩ := hother
      cases hfirst.symm.trans hsecond
      exact Or.inr (hderives.unique hlikewise ▸ happlied)
  · rintro (hsets | happlied)
    · exact .set hdeed hsets hderived
    · exact .keep hderived happlied

theorem not_applied (hdeed : deeds[place]? = some deed) (hderives : ∀ source, ¬ deed.Derives source)
    (deadline : Nat) : ¬ Applied deeds place deadline := by
  have hfrom (source : Nat) : ¬ DerivedFrom deeds place source := by
    rintro ⟨same, hsame, hderived, -⟩
    cases hdeed.symm.trans hsame
    exact hderives source hderived
  rintro (⟨-, -, hderived⟩ | ⟨hderived, -⟩)
  · exact hfrom _ hderived
  · exact hfrom _ hderived

theorem applied_of_derived (hderived : Relation.ReflTransGen (DerivedFrom deeds) place source)
    {deadline : Nat} (happlied : Applied deeds source deadline) : Applied deeds place deadline := by
  induction hderived using Relation.ReflTransGen.head_induction_on with
  | refl => exact happlied
  | head hfirst _ ih => exact .keep hfirst ih

end Lineage

namespace Scopes

open Lineage

variable {deeds : List Deed} {place source : Nat} {deed : Deed} {context origin : Context}

theorem derivedFrom_of_given (hdeed : deeds[place]? = some deed) (hderives : deed.Derives source)
    (hgiven : (run (deeds.take place)).given source = some origin) :
    DerivedFrom deeds place source := by
  obtain ⟨hlt, hsame⟩ := given_source hgiven
  exact ⟨deed, hdeed, hderives, hlt, exists_bears hsame⟩

theorem marks_none (hdeed : deeds[place]? = some deed)
    (hderives : ∀ source, ¬ deed.Derives source) :
    Marks none {deadline | Applied deeds place deadline} :=
  Set.eq_empty_iff_forall_notMem.mpr (not_applied hdeed hderives)

/-- A deed that sets no deadline keeps that of its source. -/
theorem marks_of_kept (hdeed : deeds[place]? = some deed) (hderives : deed.Derives source)
    (hgiven : (run (deeds.take place)).given source = some origin)
    (hmarks : Marks origin.deadline {deadline | Applied deeds source deadline})
    (hsets : ∀ deadline, ¬ deed.Sets deadline) :
    Marks origin.deadline {deadline | Applied deeds place deadline} := by
  simp only [applied_iff hdeed (derivedFrom_of_given hdeed hderives hgiven), hsets, false_or]
  exact hmarks

/-- A deed that sets a deadline adds it to those of its source. -/
theorem marks_of_set (hdeed : deeds[place]? = some deed) (hderives : deed.Derives source)
    (hgiven : (run (deeds.take place)).given source = some origin)
    (hmarks : Marks origin.deadline {deadline | Applied deeds source deadline}) {deadline : Nat}
    (hsets : ∀ other, deed.Sets other ↔ other = deadline) :
    Marks (origin.withDeadline deadline).deadline {deadline | Applied deeds place deadline} := by
  simp only [applied_iff hdeed (derivedFrom_of_given hdeed hderives hgiven), hsets]
  exact hmarks.withDeadline deadline

/-- The deadline of a context is the least that was set along its derivation. -/
theorem marks_applied (hgiven : (run deeds).given place = some context) :
    Marks context.deadline {deadline | Applied deeds place deadline} := by
  induction place using Nat.strongRecOn generalizing context with
  | ind place ih =>
    obtain ⟨deed, hdeed⟩ : ∃ deed, deeds[place]? = some deed :=
      ⟨_, List.getElem?_eq_getElem (lt_length_of_given hgiven)⟩
    have hsource {source : Nat} {origin : Context}
        (horigin : (run (deeds.take place)).given source = some origin) :
        Marks origin.deadline {deadline | Applied deeds source deadline} :=
      ih source (given_source horigin).1 (given_source horigin).2
    rw [given_eq hdeed] at hgiven
    cases deed with
    | new =>
      cases hgiven
      exact marks_none hdeed nofun
    | adopt source =>
      obtain ⟨origin, -, rfl⟩ := Option.map_eq_some_iff.mp hgiven
      exact marks_none hdeed nofun
    | clone source => exact marks_of_kept hdeed (.clone source) hgiven (hsource hgiven) nofun
    | child parent =>
      rw [perform] at hgiven
      split at hgiven
      · rename_i origin horigin
        have hmarks := marks_of_kept hdeed (.child parent) horigin (hsource horigin) nofun
        cases hgiven
        exact hmarks
      · cases hgiven
    | limit source deadline =>
      obtain ⟨origin, horigin, rfl⟩ := Option.map_eq_some_iff.mp hgiven
      refine marks_of_set hdeed (.limit source deadline) horigin (hsource horigin)
        fun other ↦ ⟨?_, ?_⟩
      · rintro ⟨⟩
        rfl
      · rintro rfl
        exact .limit source other
    | hurry source now timeout =>
      obtain ⟨origin, horigin, rfl⟩ := Option.map_eq_some_iff.mp hgiven
      refine marks_of_set hdeed (.hurry source now timeout) horigin (hsource horigin)
        fun other ↦ ⟨?_, ?_⟩
      · rintro ⟨⟩
        rfl
      · rintro rfl
        exact .hurry source now timeout
    | cancel target =>
      rw [perform] at hgiven
      split at hgiven <;> cases hgiven

/-- Whatever was done with contexts, in whatever order, a deed gives a context exactly if it refers
to one, or to nothing. The context is cancelled exactly if one was, before or after, that bears its
token or a token from which this descends. To cancel one more reaches just those that descend from
its token, so if this is a child neither its parent nor another child of the parent. The deadline is
the least of all that were set along the derivation, hence never later than that of a context from
which this was derived, and whatever deadlines are set next may be set in any order. -/
theorem tells_lineage (deeds : List Deed) (place : Nat) :
    ((∃ context, (run deeds).given place = some context) ↔ ∃ maker, Bears deeds place maker) ∧
    ∀ context maker, (run deeds).given place = some context → Bears deeds place maker →
      ((run deeds).tokens.isCancelled context.token = true ↔ Revoked deeds maker) ∧
      (∀ target own, Bears deeds target own →
        (run (deeds ++ [.cancel target])).given place = some context ∧
        ((run (deeds ++ [.cancel target])).tokens.isCancelled context.token = true ↔
          (run deeds).tokens.isCancelled context.token = true ∨ Descends deeds maker own) ∧
        ∀ parent, Parent deeds own parent →
          (maker = parent ∨ Parent deeds maker parent ∧ maker ≠ own) →
          (run (deeds ++ [.cancel target])).tokens.isCancelled context.token =
            (run deeds).tokens.isCancelled context.token) ∧
      (context.deadline = none ↔ ∀ deadline, ¬ Applied deeds place deadline) ∧
      (∀ deadline, context.deadline = some deadline ↔
        IsLeast {other | Applied deeds place other} deadline) ∧
      (∀ source origin deadline, Relation.ReflTransGen (DerivedFrom deeds) place source →
        (run deeds).given source = some origin → origin.deadline = some deadline →
        ∃ least ≤ deadline, context.deadline = some least) ∧
      ∀ first second : List Nat, first.Perm second →
        first.foldl Context.withDeadline context = second.foldl Context.withDeadline context := by
  refine ⟨⟨fun ⟨_, hgiven⟩ ↦ exists_bears hgiven, fun ⟨_, hbears⟩ ↦ ?_⟩,
    fun context maker hgiven hbears ↦ ⟨isCancelled_iff hgiven hbears, fun target own htarget ↦ ?_,
      (marks_applied hgiven).eq_none_iff, fun _ ↦ (marks_applied hgiven).eq_some_iff,
      fun source origin deadline hderived horigin hdeadline ↦ ?_, fun first second hperm ↦ ?_⟩⟩
  · obtain ⟨context, _, hgiven, -⟩ := exists_given_of_bears hbears
    exact ⟨context, hgiven⟩
  · have hreaches := isCancelled_concat_cancel htarget hgiven hbears
    refine ⟨?_, hreaches, fun parent hparent hkin ↦ ?_⟩
    · rw [given_concat_of_lt (lt_length_of_given hgiven), hgiven]
    · rw [Bool.eq_iff_iff, hreaches]
      exact or_iff_left (hparent.not_descends hkin)
  · have happlied := ((marks_applied horigin).eq_some_iff.mp hdeadline).1
    exact (marks_applied hgiven).exists_le (applied_of_derived hderived happlied)
  · exact hperm.foldl_eq' (fun _ _ _ _ context ↦ context.withDeadline_comm _ _) context

namespace Sample

/-- Two children of one context, of which the first is given two deadlines and then cancelled,
before a child of the last of its copies is made. -/
def history : List Deed :=
  [.new, .child 0, .child 0, .limit 1 50, .hurry 3 10 20, .cancel 1, .child 4]

theorem bears_root : Bears history 0 0 := .new rfl

theorem bears_first : Bears history 1 1 := .child rfl Nat.zero_lt_one bears_root

theorem bears_second : Bears history 2 2 := .child rfl Nat.zero_lt_two bears_root

theorem bears_hurried : Bears history 4 1 :=
  .share rfl (.hurry 3 10 20) (by decide) (.share rfl (.limit 1 50) (by decide) bears_first)

theorem bears_late : Bears history 6 6 := .child rfl (by decide) bears_hurried

end Sample

/-- The child that was made late is cancelled all the same and has the lesser deadline. To cancel it
alone leaves the other child of the first context as it is. -/
theorem tells_lineage_late :
    ∃ late other, (run Sample.history).given 6 = some late ∧
      (run Sample.history).given 2 = some other ∧
      (run Sample.history).tokens.isCancelled late.token = true ∧ Revoked Sample.history 6 ∧
      late.deadline = some 30 ∧ IsLeast {d | Applied Sample.history 6 d} 30 ∧
      (run Sample.history).tokens.isCancelled other.token = false ∧
      (run (Sample.history ++ [.cancel 1])).tokens.isCancelled other.token = false := by
  have hlate : (run Sample.history).given 6 = some ⟨⟨[3, 1, 0]⟩, some 30⟩ := by decide
  have hother : (run Sample.history).given 2 = some ⟨⟨[2, 0]⟩, none⟩ := by decide
  obtain ⟨hcancelled, -, -, hleast, -⟩ :=
    (tells_lineage Sample.history 6).2 _ _ hlate Sample.bears_late
  obtain ⟨-, hreaches, -⟩ := (tells_lineage Sample.history 2).2 _ _ hother Sample.bears_second
  have hrevoked : (run Sample.history).tokens.isCancelled ⟨[3, 1, 0]⟩ = true := by decide
  have hspared : (run Sample.history).tokens.isCancelled ⟨[2, 0]⟩ = false := by decide
  have hsibling := (hreaches 1 1 Sample.bears_first).2.2 0 ⟨0, rfl, by decide, Sample.bears_root⟩
    (Or.inr ⟨⟨0, rfl, by decide, Sample.bears_root⟩, by decide⟩)
  exact ⟨_, _, hlate, hother, hrevoked, hcancelled.mp hrevoked, rfl, (hleast 30).mp rfl, hspared,
    hsibling.trans hspared⟩

end Scopes

end RollupLedger
