import Mathlib.Order.Bounds.Basic
import OpenApiClient.Proofs.Client.Bindings

/-!
# The search for a free name

Whoever needs a name takes the one that is wanted and lets it grow by an underscore as long as it
is taken. Nothing in the name gets smaller on the way. The search ends nevertheless, because the
names it passes are different from each other and all of them are taken.

Results:
* `searches_iff`: what the search can reach in a number of rounds.
* `Searches.bounded`: it has no more rounds than there are taken names.
* `searchEnds_freshName`: it ends, at the fresh name.
* `getElem?_freshNames`: of several fresh names, each is searched with those before it taken.
* `renaming_ends`: the names of parameters and those of the constants of a body.
-/
namespace OpenApiClient.Client

/-! ## Rounds of the search -/

/-- What the search from a base has reached after a number of rounds. A round is made only while
the name is taken. -/
inductive Searches (taken : List String) (base : String) : Nat → String → Prop
  | start : Searches taken base 0 base
  | round {rounds : Nat} {name : String} (h : Searches taken base rounds name)
      (htaken : name ∈ taken) : Searches taken base (rounds + 1) (name.push '_')

theorem push_underscored (base : String) (k : Nat) :
    (underscored base k).push '_' = underscored base (k + 1) := by
  rw [← String.toList_inj, String.toList_push, underscored_toList, underscored_toList,
    List.append_assoc, List.replicate_succ']

variable {taken : List String} {base : String}

/-- The search passes taken names only, and each round adds one underscore. -/
theorem searches_iff {rounds : Nat} {name : String} :
    Searches taken base rounds name ↔
      name = underscored base rounds ∧ ∀ j < rounds, underscored base j ∈ taken := by
  constructor
  · intro h
    induction h with
    | start => exact ⟨(underscored_zero base).symm, nofun⟩
    | round h htaken ih =>
      obtain ⟨rfl, hbelow⟩ := ih
      refine ⟨push_underscored base _, fun j hj => ?_⟩
      rcases Nat.lt_succ_iff_lt_or_eq.mp hj with hj | rfl
      · exact hbelow j hj
      · exact htaken
  · rintro ⟨rfl, hbelow⟩
    induction rounds with
    | zero => rw [underscored_zero]; exact .start
    | succ rounds ih =>
      rw [← push_underscored]
      exact .round (ih fun j hj => hbelow j (Nat.lt_succ_of_lt hj))
        (hbelow rounds (Nat.lt_succ_self rounds))

/-- No search has more rounds than there are taken names. -/
theorem Searches.bounded {rounds : Nat} {name : String} (h : Searches taken base rounds name) :
    rounds ≤ taken.length := by
  obtain ⟨-, hbelow⟩ := searches_iff.mp h
  by_contra hmore
  rw [Nat.not_le] at hmore
  exact underscored_notMem (fun j hj => hbelow j (Nat.lt_trans hj hmore)) (hbelow _ hmore)

/-- The search from a base ends at a name, after some rounds. -/
structure SearchEnds (taken : List String) (base name : String) (rounds : Nat) : Prop where
  bounded : rounds ≤ taken.length
  /-- It goes through the base with fewer underscores, and no further. -/
  searches : ∀ n reached, Searches taken base n reached ↔
    n ≤ rounds ∧ reached = underscored base n
  name_eq : name = underscored base rounds
  least : IsLeast {k | underscored base k ∉ taken} rounds

theorem searchEnds_freshName (taken : List String) (base : String) :
    ∃ rounds, SearchEnds taken base (freshName taken base) rounds := by
  obtain ⟨rounds, -, hname, hfree, hbelow⟩ := freshName_eq taken base
  have hreached : Searches taken base rounds (underscored base rounds) :=
    searches_iff.mpr ⟨rfl, hbelow⟩
  have hleast : IsLeast {k | underscored base k ∉ taken} rounds :=
    ⟨hfree, fun k hk => Nat.le_of_not_lt fun hlt => hk (hbelow k hlt)⟩
  refine ⟨rounds, hreached.bounded, fun n reached => ?_, hname, hleast⟩
  rw [searches_iff, and_comm]
  refine and_congr_left fun _ => ⟨fun hpassed => ?_, fun hn j hj => hbelow j (by omega)⟩
  exact Nat.le_of_not_lt fun hlt => hfree (hpassed rounds hlt)

/-! ## Several searches -/

/-- It does not matter in which order names are taken, or how often. -/
theorem freshName_congr {others : List String} (h : ∀ name, name ∈ taken ↔ name ∈ others)
    (base : String) : freshName taken base = freshName others base := by
  obtain ⟨rounds, hends⟩ := searchEnds_freshName taken base
  obtain ⟨rounds', hends'⟩ := searchEnds_freshName others base
  have hleast := hends.least
  simp only [h] at hleast
  rw [hends.name_eq, hends'.name_eq, hleast.unique hends'.least]

/-- Each of several fresh names is free of those before it. -/
theorem getElem?_freshNames (taken bases : List String) (i : Nat) :
    (freshNames taken bases)[i]? =
      bases[i]?.map (freshName (taken ++ (freshNames taken bases).take i)) := by
  induction bases generalizing taken i with
  | nil => rfl
  | cons base more ih =>
    simp only [freshNames]
    cases i with
    | zero => simp
    | succ i =>
      rw [List.getElem?_cons_succ, List.getElem?_cons_succ, ih, List.take_succ_cons]
      congr 1
      funext base
      exact freshName_congr (fun name => by simp [or_left_comm]) base

/-- The names of the parameters in the code. -/
def Argument.idents (spell : List Char → List Char) (hasPayload : Bool)
    (parameters : List Parameter) : List String :=
  (Argument.ofParameters spell hasPayload parameters).map (·.ident)

/-- Each parameter gets the name that the search ends at, where the names of the parameters before
it are taken as well. -/
theorem searchEnds_idents (spell : List Char → List Char) (hasPayload : Bool)
    (parameters : List Parameter) (i : Nat) :
    ∀ ident ∈ (Argument.idents spell hasPayload parameters)[i]?, ∃ base rounds,
      (Argument.wantedNames spell parameters)[i]? = some base ∧
        SearchEnds
          (Argument.reserved hasPayload ++ (Argument.idents spell hasPayload parameters).take i)
          base ident rounds := by
  intro ident hident
  rw [Argument.idents, Argument.map_ident_ofParameters] at hident ⊢
  rw [getElem?_freshNames] at hident
  obtain ⟨base, hbase, rfl⟩ := Option.map_eq_some_iff.mp hident
  obtain ⟨rounds, hends⟩ := searchEnds_freshName _ base
  exact ⟨base, rounds, hbase, hends⟩

/-- Whatever names are taken, the search for a free one ends after at most as many rounds, at the
base with the fewest underscores that make it free. It is so for every parameter of a function,
where the names of the body and of the parameters before it are taken, and for every constant of
its body, where the names of the parameters are. -/
theorem renaming_ends :
    (∀ taken base, ∃ rounds, SearchEnds taken base (freshName taken base) rounds) ∧
      (∀ spell hasPayload parameters i,
        ∀ ident ∈ (Argument.idents spell hasPayload parameters)[i]?,
          ∃ base rounds, (Argument.wantedNames spell parameters)[i]? = some base ∧
            SearchEnds
              (Argument.reserved hasPayload ++
                (Argument.idents spell hasPayload parameters).take i)
              base ident rounds) ∧
      ∀ function : ClientFunction,
        List.Forall₂ (fun base name => ∃ rounds, SearchEnds function.signature base name rounds)
          (Locals.bases function.payload.isSome) (Locals.ofFunction function).names := by
  refine ⟨searchEnds_freshName, searchEnds_idents, fun function => ?_⟩
  rw [Locals.names_ofFunction, List.forall₂_map_right_iff, List.forall₂_same]
  exact fun base _ => searchEnds_freshName function.signature base

/-- Names that are taken twice or are not on the way cost no round. -/
example : freshName ["url", "other", "url_", "url", "url___"] "url" = "url__" := by decide

end OpenApiClient.Client
