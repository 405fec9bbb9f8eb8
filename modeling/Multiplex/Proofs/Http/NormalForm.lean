import Multiplex.Proofs.Http.HopByHop

/-!
# Requests that are normalized already

A request is normalized before each attempt to dispatch it, also if it was normalized for an
earlier attempt.  `Request.IsNormalized` is the form that a request has once normalizing has
accepted it: nothing in it concerns a single connection, and its target is complete.  Whatever
is in this form stays as it is.
-/

namespace Multiplex.Http

namespace Fields

variable {fields : Fields} {name : FieldName} {names : List FieldName}

/-- No field concerns a single connection. -/
structure IsStripped (fields : Fields) : Prop where
  known : ∀ name ∈ hopByHop, fields.values name = []
  trailers : fields.acceptsTrailersOnly = true

private theorem remove_eq_self (hnone : fields.values name = []) : fields.remove name = fields := by
  obtain ⟨entries⟩ := fields
  rw [remove, Fields.mk.injEq]
  refine List.filter_eq_self.mpr fun entry hmem => ?_
  rw [values, List.map_eq_nil_iff, List.filter_eq_nil_iff] at hnone
  simpa using hnone entry hmem

theorem removeAll_eq_self (hnone : ∀ name ∈ names, fields.values name = []) :
    fields.removeAll names = fields := by
  induction names with
  | nil => rfl
  | cons first rest ih =>
      obtain ⟨hfirst, hrest⟩ := List.forall_mem_cons.mp hnone
      rw [removeAll, List.foldl_cons, remove_eq_self hfirst]
      exact ih hrest

theorem isStripped_stripConnection (fields : Fields) : fields.stripConnection.IsStripped where
  known _ hhop := values_stripConnection_eq_nil (.inr hhop)
  trailers := by
    rcases values_restrictTe_te ((fields.removeAll fields.nominated).removeAll hopByHop) with
      hnone | ⟨hsame, htrailers⟩
    · rw [stripConnection, acceptsTrailersOnly, hnone]
      rfl
    · rw [stripConnection, acceptsTrailersOnly, hsame]
      exact htrailers

namespace IsStripped

variable (hstripped : fields.IsStripped)
include hstripped

private theorem stripConnection_eq : fields.stripConnection = fields := by
  have hnominated : fields.nominated = [] := by
    rw [nominated, hstripped.known .connection (by decide)]
    rfl
  rw [stripConnection, hnominated, removeAll_eq_self fun _ hmem => absurd hmem List.not_mem_nil,
    removeAll_eq_self hstripped.known, restrictTe, if_pos hstripped.trailers]

theorem remove (name : FieldName) (hne : name ≠ .te) : (fields.remove name).IsStripped where
  known other hhop := values_remove_eq_nil (hstripped.known other hhop) name
  trailers := by
    rw [acceptsTrailersOnly, values_remove_of_ne _ hne.symm]
    exact hstripped.trailers

end IsStripped

end Fields

private theorem Uri.parts_of_assemble {scheme : Option Scheme} {host : Authority}
    {target : Option PathAndQuery} {uri : Uri}
    (hassembled : Uri.assemble? scheme (some host) target = .ok uri) :
    uri.scheme? = scheme ∧ uri.authority? = some host := by
  cases scheme <;> cases target <;> simp only [Uri.assemble?, reduceCtorEq] at hassembled
  all_goals
    obtain rfl := Except.ok.inj hassembled
    exact ⟨rfl, rfl⟩

namespace Request

variable {request : Request}

/-- The target lacks nothing that the method needs. -/
structure IsComplete (request : Request) : Prop where
  authority : request.uri.authority?.isNone = false
  scheme : (request.uri.scheme?.isNone && request.method != .connect) = false

/-- Nothing is left to normalize. -/
structure IsNormalized (request : Request) : Prop where
  version : request.version = .http2
  fields : request.fields.IsStripped
  complete : request.IsComplete

/-- Nothing that concerns the connection is left to be removed twice. -/
theorem stripped_of_isStripped (hversion : request.version = .http2)
    (hfields : request.fields.IsStripped) : request.stripped = request := by
  rw [stripped, hfields.stripConnection_eq, ← hversion]

theorem IsNormalized.normalize_eq (hnormalized : request.IsNormalized) :
    request.normalize = (request, .ok ()) := by
  have hstripped : request.stripped = request :=
    stripped_of_isStripped hnormalized.version hnormalized.fields
  rw [normalize, hstripped, resolveTarget, hnormalized.complete.authority,
    hnormalized.complete.scheme]
  rfl

/-- A target that gets what it lacks is complete, and nothing else changes. -/
theorem isComplete_completeUri {authority : Option Authority} {host : Authority}
    (hhost : (authority <|> request.uri.authority?) = some host)
    (haccepted : (request.completeUri authority).2 = .ok ()) :
    (request.completeUri authority).1.version = request.version ∧
      (request.completeUri authority).1.IsComplete := by
  unfold completeUri at haccepted ⊢
  simp only [hhost] at haccepted ⊢
  split at haccepted
  next => simp at haccepted
  next uri hassembled =>
    obtain ⟨hscheme, hauthority⟩ := Uri.parts_of_assemble hassembled
    refine ⟨rfl, by rw [hauthority]; rfl, ?_⟩
    rw [hscheme]
    cases hconnect : request.method == .connect with
    | true => simp [bne, hconnect]
    | false => simp

private theorem isComplete_resolveTarget (haccepted : request.resolveTarget.2 = .ok ()) :
    request.resolveTarget.1.version = request.version ∧ request.resolveTarget.1.IsComplete := by
  unfold resolveTarget at haccepted ⊢
  split at haccepted
  next hmissing =>
    rw [if_pos hmissing]
    split at haccepted
    next => simp at haccepted
    next value others hvalues =>
      dsimp only at haccepted ⊢
      split at haccepted
      next => simp at haccepted
      next host _ => exact isComplete_completeUri rfl haccepted
  next hauthority =>
    rw [if_neg hauthority]
    obtain ⟨host, hhost⟩ : ∃ host, request.uri.authority? = some host :=
      Option.ne_none_iff_exists'.mp fun hnone => hauthority (by rw [hnone]; rfl)
    split at haccepted
    next hmissing =>
      rw [if_pos hmissing]
      exact isComplete_completeUri hhost haccepted
    next hscheme =>
      rw [if_neg hscheme]
      exact ⟨rfl, by rw [hhost]; rfl, Bool.eq_false_iff.mpr hscheme⟩

/-- Whether it is accepted or not, no field of the request concerns the connection afterwards. -/
theorem isStripped_normalize (request : Request) : request.normalize.1.fields.IsStripped := by
  have hstripped := request.fields.isStripped_stripConnection
  rcases request.stripped.fields_resolveTarget with hsame | hhost
  · rw [normalize, hsame, fields_stripped]
    exact hstripped
  · rw [normalize, hhost, fields_stripped]
    exact hstripped.remove .host (by decide)

/-- Where normalizing accepts a request, the request is normalized afterwards. -/
theorem isNormalized_normalize (haccepted : request.normalize.2 = .ok ()) :
    request.normalize.1.IsNormalized := by
  obtain ⟨hversion, hcomplete⟩ := isComplete_resolveTarget haccepted
  exact ⟨hversion, request.isStripped_normalize, hcomplete⟩

/-! ## Requests that cannot be normalized -/

/-- Normalizing does not accept a request. -/
def IsRejected (request : Request) : Prop := ∃ error, request.normalize.2 = .error error

theorem completeUri_of_error {authority : Option Authority} {error : ProtocolError}
    (hrejected : (request.completeUri authority).2 = .error error) :
    (request.completeUri authority).1 = request := by
  unfold completeUri at hrejected ⊢
  dsimp only at hrejected ⊢
  split at hrejected
  next => rfl
  next => simp at hrejected

/-- Where the target cannot be completed, nothing is changed but that the `host` field may have
been used up in vain. -/
theorem resolveTarget_of_error {error : ProtocolError}
    (hrejected : request.resolveTarget.2 = .error error) :
    request.resolveTarget.1 = request ∨ request.uri.authority?.isNone = true ∧
      request.resolveTarget.1 = { request with fields := request.fields.remove .host } := by
  unfold resolveTarget at hrejected ⊢
  split at hrejected
  next hmissing =>
    rw [if_pos hmissing]
    split at hrejected
    next => exact .inl rfl
    next value others hvalues =>
      right
      refine ⟨hmissing, ?_⟩
      dsimp only at hrejected ⊢
      split at hrejected
      next => rfl
      next => exact completeUri_of_error hrejected
  next hauthority =>
    rw [if_neg hauthority]
    left
    split at hrejected
    next hmissing =>
      rw [if_pos hmissing]
      exact completeUri_of_error hrejected
    next => simp at hrejected

/-- Without an authority and without a `host` field there is nothing to complete a target with. -/
theorem resolveTarget_of_homeless (hmissing : request.uri.authority?.isNone = true)
    (hhost : request.fields.values .host = []) :
    request.resolveTarget.2 = .error .missingAuthority := by
  rw [resolveTarget, if_pos hmissing, hhost]

/-- What normalizing does not accept once it never accepts, although it may have changed it. -/
theorem IsRejected.normalize (hrejected : request.IsRejected) : request.normalize.1.IsRejected := by
  obtain ⟨error, herror⟩ := hrejected
  have hstripped : request.stripped.fields.IsStripped := by
    rw [fields_stripped]
    exact request.fields.isStripped_stripConnection
  rcases resolveTarget_of_error herror with hsame | ⟨hmissing, hused⟩
  · -- Nothing was used up, so the same error comes up again.
    have heq : request.normalize.1 = request.stripped := hsame
    refine ⟨error, ?_⟩
    rw [heq, Request.normalize, stripped_of_isStripped rfl hstripped]
    exact herror
  · -- The `host` field is gone, and there is no authority.
    let homeless : Request :=
      { request.stripped with fields := request.stripped.fields.remove .host }
    have heq : request.normalize.1 = homeless := hused
    have hagain : homeless.fields.IsStripped := hstripped.remove .host (by decide)
    have hhost : homeless.fields.values .host = [] := Fields.values_remove_self _ _
    refine ⟨.missingAuthority, ?_⟩
    rw [heq, Request.normalize, stripped_of_isStripped rfl hagain]
    exact resolveTarget_of_homeless hmissing hhost

/-! ## The body -/

theorem body_completeUri (request : Request) (authority : Option Authority) :
    (request.completeUri authority).1.body = request.body := by
  simp only [completeUri]
  split <;> rfl

/-- Normalizing is about everything but the body. -/
theorem body_normalize (request : Request) : request.normalize.1.body = request.body := by
  simp only [normalize, resolveTarget]
  split
  · split
    · rfl
    · split
      · rfl
      · exact body_completeUri _ _
  · split
    · exact body_completeUri _ _
    · rfl

end Request

end Multiplex.Http
