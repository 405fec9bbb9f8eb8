import Mathlib.Data.List.Nodup

/-!
# Places in lists

What is chosen in a list, what is alone in it, and which of two places comes first.
-/

namespace Multiplex

/-- Where those that are chosen come before those that are not, they can be taken apart. -/
theorem filter_append_filter_not {β : Type} {chosen : β → Bool} {all : List β}
    (hbefore : all.Pairwise fun first second => chosen second = true → chosen first = true) :
    all.filter chosen ++ all.filter (fun each => !chosen each) = all := by
  induction all with
  | nil => rfl
  | cons first rest ih =>
      obtain ⟨hfirst, hrest⟩ := List.pairwise_cons.mp hbefore
      cases hchosen : chosen first with
      | true => simp [hchosen, ih hrest]
      | false =>
          have hnone : rest.filter chosen = [] := by
            refine List.filter_eq_nil_iff.mpr fun each hmem heach => ?_
            rw [hfirst each hmem heach] at hchosen
            exact Bool.noConfusion hchosen
          have hall : rest.filter (fun each => !chosen each) = rest := by
            have happart := ih hrest
            rwa [hnone, List.nil_append] at happart
          simp [hchosen, hnone, hall]

/-- Where nothing occurs twice, what is alone there is all there is. -/
theorem eq_singleton_of_nodup {β : Type} {all : List β} {only : β} (honce : all.Nodup)
    (honly : ∀ each, each ∈ all ↔ each = only) : all = [only] := by
  refine List.perm_singleton.mp
    ((List.perm_ext_iff_of_nodup honce (List.nodup_singleton only)).mpr fun each => ?_)
  rw [honly each, List.mem_singleton]

/-- Two places in a list are the same, or one comes before the other. -/
theorem eq_or_before {β : Type} {before before' after after' : List β} {entry entry' : β}
    (hsame : before ++ entry :: after = before' ++ entry' :: after') :
    before = before' ∨ (∃ between, before' = before ++ entry :: between) ∨
      ∃ between, before = before' ++ entry' :: between := by
  rcases List.append_eq_append_iff.mp hsame with ⟨between, hlonger, hrest⟩ |
    ⟨between, hlonger, hrest⟩
  · cases between with
    | nil => exact .inl (by simpa using hlonger.symm)
    | cons first between =>
        obtain ⟨rfl, -⟩ := List.cons.inj hrest
        exact .inr (.inl ⟨between, hlonger⟩)
  · cases between with
    | nil => exact .inl (by simpa using hlonger)
    | cons first between =>
        obtain ⟨rfl, -⟩ := List.cons.inj hrest
        exact .inr (.inr ⟨between, hlonger⟩)

end Multiplex
