import Mathlib.Logic.Function.Basic

/-!
# Helper identities and per-query roles

The three helpers of the MPC ring and the roles `H1`, `H2`, `H3` one query hands them
(`crate::helpers`, outside the sources).  The processor reads two things from this layer:
`HelperIdentity::others`, the ordered pair `[right, left]` a coordinator sends its
`PrepareQuery` to, and `RoleAssignment::try_from`, which `Processor::new_query` unwraps.  Both
are modelled from the spec (§3); the live `new_query` test fixes `others(ONE) = [TWO, THREE]`.

`RoleAssignment` carries its bijection as a field, so an assignment that names one helper twice
cannot be built.  `tryFrom_coordinator` is the fact `new_query` needs: the coordinator's own
triple always forms an assignment (the `unwrap` never fires), the coordinator reads `H1` back,
and each peer reads back the role the coordinator meant for it.
-/

namespace IpaHelper

/-- Modelled from the spec: one of the three helpers (`HelperIdentity::{ONE, TWO, THREE}`). -/
inductive HelperIdentity
  | one
  | two
  | three
  deriving DecidableEq, Repr

/-- Modelled from the spec: a helper's role in one query (`Role`); `H1` is the coordinator, the
helper that received the external request. -/
inductive Role
  | H1
  | H2
  | H3
  deriving DecidableEq, Repr

namespace HelperIdentity

/-- Modelled from the spec: `HelperIdentity::others`, the two other helpers of the ring as the
ordered pair `(right, left)`. -/
def others : HelperIdentity → HelperIdentity × HelperIdentity
  | one => (two, three)
  | two => (three, one)
  | three => (one, two)

/-- The coordinator and its two peers are all three helpers. -/
lemma eq_or_others (id x : HelperIdentity) : x = id ∨ x = id.others.1 ∨ x = id.others.2 := by
  cases id <;> cases x <;> decide

end HelperIdentity

/-- Modelled from the spec: a bijection between the three helpers and the three roles for one query
(`RoleAssignment`), kept as the helper holding each role.  Three roles on three helpers: injective
is bijective. -/
structure RoleAssignment where
  helperRoles : Role → HelperIdentity
  injective : Function.Injective helperRoles

namespace RoleAssignment

/-- Two assignments are equal when they name the same helper for every role. -/
@[ext] lemma ext {a b : RoleAssignment} (h : ∀ r, a.helperRoles r = b.helperRoles r) : a = b := by
  cases a; cases b; congr; funext r; exact h r

instance : DecidableEq RoleAssignment := fun a b =>
  decidable_of_iff
    (a.helperRoles .H1 = b.helperRoles .H1 ∧ a.helperRoles .H2 = b.helperRoles .H2 ∧
      a.helperRoles .H3 = b.helperRoles .H3)
    ⟨fun ⟨h1, h2, h3⟩ => ext fun r => by cases r <;> assumption,
      by rintro rfl; exact ⟨rfl, rfl, rfl⟩⟩

/-- Modelled from the spec: `RoleAssignment::role`, the role a helper holds. -/
def role (roles : RoleAssignment) (id : HelperIdentity) : Role :=
  if roles.helperRoles .H1 = id then .H1
  else if roles.helperRoles .H2 = id then .H2
  else .H3

/-- A helper holds `H1` exactly when the assignment names it for `H1`. -/
lemma role_eq_H1 {roles : RoleAssignment} {id : HelperIdentity} :
    roles.role id = .H1 ↔ roles.helperRoles .H1 = id := by
  unfold role
  split_ifs <;> simp_all

/-- The assignment giving `H1`, `H2`, `H3` to three pairwise distinct helpers. -/
def ofDistinct (a b c : HelperIdentity) (h : a ≠ b ∧ a ≠ c ∧ b ≠ c) : RoleAssignment where
  helperRoles
    | .H1 => a
    | .H2 => b
    | .H3 => c
  injective := by
    obtain ⟨hab, hac, hbc⟩ := h
    rintro (_ | _ | _) (_ | _ | _) e <;> first | rfl | simp_all [eq_comm]

/-- The helper a list of `(helper, role)` pairs names for a role, if any. -/
def helperFor (pairs : List (HelperIdentity × Role)) (r : Role) : Option HelperIdentity :=
  (pairs.find? (·.2 == r)).map (·.1)

/-- Modelled from the spec: `RoleAssignment::try_from`, which accepts `(helper, role)` pairs only
when every role is named and the three helpers named are distinct. -/
def tryFrom (pairs : List (HelperIdentity × Role)) : Option RoleAssignment :=
  match helperFor pairs .H1, helperFor pairs .H2, helperFor pairs .H3 with
  | some a, some b, some c => if h : a ≠ b ∧ a ≠ c ∧ b ≠ c then some (ofDistinct a b c h) else none
  | _, _, _ => none

/-- **The coordinator's assignment.** `new_query`'s triple `[(id, H1), (right, H2), (left, H3)]`
always forms an assignment, in which `id` holds `H1`, `right` holds `H2` and `left` holds `H3`. -/
theorem tryFrom_coordinator (id : HelperIdentity) :
    ∃ roles, tryFrom [(id, .H1), (id.others.1, .H2), (id.others.2, .H3)] = some roles ∧
      roles.role id = .H1 ∧ roles.role id.others.1 = .H2 ∧ roles.role id.others.2 = .H3 := by
  cases id <;> exact ⟨_, rfl, rfl, rfl, rfl⟩

end RoleAssignment

end IpaHelper
