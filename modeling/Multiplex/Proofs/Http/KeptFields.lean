import Multiplex.Proofs.Http.NormalForm

/-!
# What normalizing keeps

Normalizing removes fields name by name: a name keeps all its values in their order, or it loses
all of them.  `Request.Sheds` lists the reasons for the latter.  A field goes because it concerns
one connection, because a `connection` value nominates it, because it is a `te` field and asks for
more than trailers, or because it is the `host` field of a request whose target names no
authority.  No other value of any field plays a part, and there is no other reason, whether or not
the request is accepted.
-/

namespace Multiplex.Http

namespace Fields

variable {fields : Fields} {name : FieldName}

private theorem values_stripConnection_te (hnominated : FieldName.te ∉ fields.nominated)
    (htrailers : fields.acceptsTrailersOnly = true) :
    fields.stripConnection.values .te = fields.values .te := by
  have hhop : FieldName.te ∉ hopByHop := by decide
  have hleft : ((fields.removeAll fields.nominated).removeAll hopByHop).values .te =
      fields.values .te := by
    rw [values_removeAll, values_removeAll, if_neg hhop, if_neg hnominated]
  have haccepts : ((fields.removeAll fields.nominated).removeAll hopByHop).acceptsTrailersOnly =
      true := by
    rw [acceptsTrailersOnly, hleft]
    exact htrailers
  rw [stripConnection, restrictTe, if_pos haccepts, hleft]

private theorem values_stripConnection_te_eq_nil {value : FieldValue}
    (hvalue : value ∈ fields.values .te)
    (hmore : sameIgnoringCase value.octets (Octets.ofText "trailers") = false) :
    fields.stripConnection.values .te = [] := by
  by_contra hleft
  have htrailers := trailers_of_stripConnection hleft hvalue
  rw [hmore] at htrailers
  cases htrailers

end Fields

namespace Request

variable {request : Request} {name : FieldName}

/-- The reasons for which the values of a name are removed. -/
inductive Sheds (request : Request) : FieldName → Prop
  | known {name : FieldName} :
      name ∈ [FieldName.connection, .keepAlive, .proxyConnection, .transferEncoding, .upgrade] →
      Sheds request name
  | nominated {name : FieldName} {value : FieldValue} :
      value ∈ request.fields.values .connection → value.IsText → value.Nominates name →
      Sheds request name
  | te {value : FieldValue} : value ∈ request.fields.values .te →
      Fields.sameIgnoringCase value.octets (Octets.ofText "trailers") = false → Sheds request .te
  | host : request.uri.authority? = none → Sheds request .host

/-! ## Method and body -/

theorem method_completeUri (request : Request) (authority : Option Authority) :
    (request.completeUri authority).1.method = request.method := by
  simp only [completeUri]
  split <;> rfl

private theorem method_normalize (request : Request) :
    request.normalize.1.method = request.method := by
  simp only [normalize, resolveTarget]
  split
  · split
    · rfl
    · split
      · rfl
      · exact method_completeUri _ _
  · split
    · exact method_completeUri _ _
    · rfl

/-! ## The `host` field -/

/-- A target without an authority uses the `host` field up, whatever comes of it. -/
theorem values_host_of_missing (hmissing : request.uri.authority? = none) :
    request.normalize.1.fields.values .host = [] := by
  have hneeded : request.stripped.uri.authority?.isNone = true :=
    Option.isNone_iff_eq_none.mpr hmissing
  simp only [normalize, resolveTarget, hneeded, if_true]
  split
  next hnone => exact hnone
  next =>
    split
    · exact Fields.values_remove_self _ _
    · rw [fields_completeUri]
      exact Fields.values_remove_self _ _

private theorem fields_normalize_of_authority (hpresent : request.uri.authority? ≠ none) :
    request.normalize.1.fields = request.fields.stripConnection := by
  have hsome : request.stripped.uri.authority?.isNone = false :=
    Option.isNone_eq_false_iff.mpr (Option.isSome_iff_ne_none.mpr hpresent)
  simp only [normalize, resolveTarget, hsome, Bool.false_eq_true, if_false]
  split
  · rw [fields_completeUri, fields_stripped]
  · rw [fields_stripped]

/-! ## All or nothing -/

theorem mem_hopByHop_iff : name ∈ Fields.hopByHop ↔
    name ∈ [FieldName.connection, .keepAlive, .proxyConnection, .transferEncoding, .upgrade] := by
  simp only [Fields.hopByHop, List.mem_cons, List.not_mem_nil, or_false]
  tauto

/-- What there is a reason to remove is removed. -/
theorem Sheds.values_normalize (hsheds : request.Sheds name) :
    request.normalize.1.fields.values name = [] := by
  cases hsheds with
  | known hknown =>
      exact values_normalize_eq_nil
        (Fields.values_stripConnection_eq_nil (.inr (mem_hopByHop_iff.mpr hknown)))
  | nominated hvalue htext hnominates =>
      have hnominated : name ∈ request.fields.nominated :=
        Fields.mem_nominated_iff.mpr ⟨_, hvalue, htext, hnominates⟩
      exact values_normalize_eq_nil (Fields.values_stripConnection_eq_nil (.inl hnominated))
  | te hvalue hmore =>
      exact values_normalize_eq_nil (Fields.values_stripConnection_te_eq_nil hvalue hmore)
  | host hmissing => exact values_host_of_missing hmissing

/-- What there is no reason to remove is not touched by the removals of other names. -/
theorem values_stripConnection_of_not_sheds (hkept : ¬ request.Sheds name) :
    request.fields.stripConnection.values name = request.fields.values name := by
  have hnominated : name ∉ request.fields.nominated := fun hmem => by
    obtain ⟨value, hvalue, htext, hnominates⟩ := Fields.mem_nominated_iff.mp hmem
    exact hkept (.nominated hvalue htext hnominates)
  have hhop : name ∉ Fields.hopByHop := fun hmem => hkept (.known (mem_hopByHop_iff.mp hmem))
  by_cases hte : name = .te
  · subst hte
    refine Fields.values_stripConnection_te hnominated (List.all_eq_true.mpr fun value hvalue => ?_)
    by_contra hmore
    exact hkept (.te hvalue (Bool.eq_false_iff.mpr hmore))
  · exact Fields.values_stripConnection hnominated hhop hte

theorem values_normalize_of_not_sheds (hkept : ¬ request.Sheds name) :
    request.normalize.1.fields.values name = request.fields.values name := by
  by_cases hhost : name = .host
  · subst hhost
    have hpresent : request.uri.authority? ≠ none := fun hmissing => hkept (.host hmissing)
    rw [fields_normalize_of_authority hpresent]
    exact values_stripConnection_of_not_sheds hkept
  · rw [values_normalize hhost]
    exact values_stripConnection_of_not_sheds hkept

/-- Normalizing removes all values of the names that there is a reason to remove, and nothing else,
whether or not it accepts the request.  Every other name keeps its values in their order, also if
a field other than `connection` names it, and method and body stay. -/
theorem normalize_removes_nothing_else (request : Request) :
    (∀ name, (request.normalize.1.fields.values name = request.fields.values name ∧
        ¬ request.Sheds name) ∨
      (request.normalize.1.fields.values name = [] ∧ request.Sheds name)) ∧
    (∀ name, (∀ value ∈ request.fields.values .connection, ¬ value.Nominates name) →
      name ∉ [FieldName.connection, .keepAlive, .proxyConnection, .transferEncoding, .upgrade] →
      name ≠ .te → name ≠ .host →
      ∀ other ≠ .connection, ∀ value ∈ request.fields.values other, value.Nominates name →
        request.normalize.1.fields.values name = request.fields.values name) ∧
    request.normalize.1.method = request.method ∧ request.normalize.1.body = request.body := by
  refine ⟨fun name => ?_, fun name hnone hknown hte hhost _ _ _ _ _ => ?_, request.method_normalize,
    request.body_normalize⟩
  · by_cases hsheds : request.Sheds name
    · exact .inr ⟨hsheds.values_normalize, hsheds⟩
    · exact .inl ⟨values_normalize_of_not_sheds hsheds, hsheds⟩
  · refine values_normalize_of_not_sheds fun hsheds => ?_
    cases hsheds with
    | known hmem => exact hknown hmem
    | nominated hvalue _ hnominates => exact hnone _ hvalue hnominates
    | te => exact hte rfl
    | host => exact hhost rfl

end Request

end Multiplex.Http
