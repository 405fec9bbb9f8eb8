import Multiplex.Proofs.Http.NormalForm

/-!
# What normalizing decides

Normalizing a request ends in one of three ways, and which one it is depends on the target, on
the method, and on the first `host` value among the fields that are left once those that
concern the connection are gone.

* The request is `IsHomeless`: neither its target nor a `host` field says where it goes.
* The request is `IsMisdirected`: its target names no authority, and either the first `host`
  value is no authority, or the method is `CONNECT`, whose target cannot take one over because
  it has a path and gets no scheme.  Only a target that says nothing has no path; with `CONNECT`
  it becomes the authority alone.
* Otherwise it is accepted, and `IsResolved` says all about the request that comes of it.

The fields are stripped first, so a `host` field that a `connection` field nominates counts as
missing.
-/

namespace Multiplex.Http

/-! ## Targets -/

/-- A target with all its parts: those that it has, a given authority, and otherwise what a
target without them stands for. -/
def Uri.completed (uri : Uri) (host : Authority) : Uri :=
  .absolute (uri.scheme?.getD .https) host (uri.pathPart?.getD .slash)

private theorem Uri.parts_of_authority {uri : Uri} (hmissing : uri.authority? = none) :
    uri.scheme? = none ∧ (uri.pathPart? = none ↔ uri.isEmpty = true) := by
  cases uri with
  | path target => simp [scheme?, pathPart?, pathAndQuery?]
  | authority host => cases hmissing
  | absolute scheme host target => cases hmissing

/-! ## The authority in a `host` value -/

/-- A value is printable text, and the text is an authority. -/
def FieldValue.Names (value : FieldValue) (host : Authority) : Prop :=
  value.IsText ∧ Authority.parse (String.ofList (value.octets.map octetChar)) = .ok host

namespace Request

variable {request after : Request} {value : FieldValue} {host : Authority}

theorem hostAuthority_eq_ok_iff : hostAuthority value = .ok host ↔ value.Names host := by
  rw [hostAuthority, FieldValue.Names]
  cases htext : value.text? with
  | none =>
      have hnot : ¬ value.IsText := fun htrue => by
        simp [FieldValue.text?_eq_some_iff.mpr ⟨htrue, rfl⟩] at htext
      simp [hnot]
  | some text =>
      obtain ⟨hprintable, rfl⟩ := FieldValue.text?_eq_some_iff.mp htext
      cases hparsed : Authority.parse (String.ofList (value.octets.map octetChar)) with
      | error reason => simp [hparsed]
      | ok read => simp [hprintable, hparsed]

private theorem hostAuthority_cases (value : FieldValue) :
    (∃ host, value.Names host ∧ hostAuthority value = .ok host) ∨
      (¬ ∃ host, value.Names host) ∧
        ∃ reason, hostAuthority value = .error (.invalidUri reason) := by
  cases hread : hostAuthority value with
  | ok host => exact .inl ⟨host, hostAuthority_eq_ok_iff.mp hread, rfl⟩
  | error error =>
      right
      constructor
      · rintro ⟨host, hnames⟩
        rw [hostAuthority_eq_ok_iff.mpr hnames] at hread
        cases hread
      · rw [hostAuthority] at hread
        split at hread
        · exact ⟨_, by rw [← hread]⟩
        · split at hread
          · exact ⟨_, by rw [← hread]⟩
          · cases hread

/-! ## The three ends -/

/-- The first `host` value that is left once the fields that concern the connection are gone. -/
def firstHost? (request : Request) : Option FieldValue :=
  (request.fields.stripConnection.values .host).head?

/-- Nothing in a request says where it goes. -/
def IsHomeless (request : Request) : Prop :=
  request.uri.authority? = none ∧ request.firstHost? = none

/-- A request says where it goes in its `host` field only, and that cannot be made a target. -/
def IsMisdirected (request : Request) : Prop :=
  request.uri.authority? = none ∧ ∃ value, request.firstHost? = some value ∧
    ((¬ ∃ host, value.Names host) ∨ request.method = .connect ∧ request.uri.isEmpty = false)

/-- The authority that a request goes to: the one of its target, or else the one that the first
`host` value names. -/
def GoesTo (request : Request) (host : Authority) : Prop :=
  request.uri.authority? = some host ∨ request.uri.authority? = none ∧
    ∃ value, request.firstHost? = some value ∧ value.Names host

/-- What comes of a request that is accepted. -/
structure IsResolved (request after : Request) : Prop where
  version : after.version = .http2
  method : after.method = request.method
  body : after.body = request.body
  /-- A target that lacks nothing, or need not have more, stays as it is. -/
  kept : request.uri.authority?.isSome →
      request.method = .connect ∨ request.uri.scheme?.isSome → after.uri = request.uri
  /-- With `CONNECT` a target that says nothing becomes the authority alone. -/
  bare : request.method = .connect → request.uri.authority? = none →
      request.uri.isEmpty = true ∧ ∃ host, request.GoesTo host ∧ after.uri = .authority host
  /-- Any other target is completed. -/
  completed : request.method ≠ .connect →
      (request.uri.scheme? = none ∨ request.uri.authority? = none) →
        ∃ host, request.GoesTo host ∧ after.uri = request.uri.completed host
  /-- The `host` fields are used up where the authority was taken from them. -/
  used : request.uri.authority? = none →
      after.fields = request.fields.stripConnection.remove .host
  /-- Where it was not, they are fields like all others. -/
  unused : request.uri.authority?.isSome → after.fields = request.fields.stripConnection

/-- A `CONNECT` request whose target has no authority takes one over only if the target says
nothing else either. -/
private theorem completeUri_connect (hconnect : request.method = .connect)
    (hmissing : request.uri.authority? = none) (host : Authority) :
    request.completeUri (some host) =
      if request.uri.isEmpty then ({ request with uri := .authority host }, .ok ())
      else (request, .error (.invalidUri UriError.schemeMissing.message)) := by
  obtain ⟨hscheme, hpath⟩ := Uri.parts_of_authority hmissing
  cases hempty : request.uri.isEmpty with
  | true => simp [completeUri, hconnect, hscheme, hpath.mpr hempty, Uri.assemble?]
  | false =>
      obtain ⟨target, htarget⟩ : ∃ target, request.uri.pathPart? = some target :=
        Option.ne_none_iff_exists'.mp fun hnone => by simp [hpath.mp hnone] at hempty
      simp [completeUri, hconnect, hscheme, htarget, Uri.assemble?]

theorem completeUri_of_ne_connect {authority : Option Authority}
    (hconnect : request.method ≠ .connect)
    (hhost : (authority <|> request.uri.authority?) = some host) :
    request.completeUri authority =
      ({ request with uri := request.uri.completed host }, .ok ()) := by
  have hmethod : (request.method == .connect) = false := by simpa using hconnect
  simp [completeUri, hmethod, hhost, Uri.assemble?, Uri.completed]

theorem firstHost?_eq (request : Request) :
    request.firstHost? = (request.stripped.fields.values .host).head? := by
  rw [firstHost?, fields_stripped]

theorem values_host_of_firstHost? (hfirst : request.firstHost? = some value) :
    ∃ others, request.stripped.fields.values .host = value :: others := by
  rw [firstHost?_eq] at hfirst
  exact List.head?_eq_some_iff.mp hfirst

/-- What is left of a request whose `host` fields are used up. -/
def unhosted (request : Request) : Request :=
  { request.stripped with fields := request.stripped.fields.remove .host }

theorem fields_unhosted (request : Request) :
    request.unhosted.fields = request.fields.stripConnection.remove .host := by
  rw [unhosted, fields_stripped]

private theorem normalize_of_homeless (hhomeless : request.IsHomeless) :
    request.normalize.2 = .error .missingAuthority := by
  have hneeded : request.stripped.uri.authority?.isNone = true :=
    Option.isNone_iff_eq_none.mpr hhomeless.1
  have hnone : request.stripped.fields.values .host = [] :=
    List.head?_eq_none_iff.mp (request.firstHost?_eq.symm.trans hhomeless.2)
  exact resolveTarget_of_homeless hneeded hnone

section FirstHost

variable (hmissing : request.uri.authority? = none) (hfirst : request.firstHost? = some value)
include hmissing hfirst

/-- Without an authority the first `host` value is asked for one, and what is wrong with it is
reported. -/
private theorem normalize_of_unnamed {error : ProtocolError}
    (hread : hostAuthority value = .error error) :
    request.normalize.2 = .error error := by
  obtain ⟨others, hvalues⟩ := values_host_of_firstHost? hfirst
  have hneeded : request.stripped.uri.authority?.isNone = true :=
    Option.isNone_iff_eq_none.mpr hmissing
  simp only [normalize, resolveTarget, hneeded, if_true, hvalues, hread]

/-- Where the first `host` value gives an authority, the target is completed with it. -/
theorem normalize_of_named (hread : hostAuthority value = .ok host) :
    request.normalize = request.unhosted.completeUri (some host) := by
  obtain ⟨others, hvalues⟩ := values_host_of_firstHost? hfirst
  have hneeded : request.stripped.uri.authority?.isNone = true :=
    Option.isNone_iff_eq_none.mpr hmissing
  simp only [normalize, resolveTarget, hneeded, if_true, hvalues, hread, unhosted]

end FirstHost

/-- A `host` value that names no authority, or that a `CONNECT` request cannot use, makes the
target invalid. -/
theorem normalize_of_misdirected (hmisdirected : request.IsMisdirected) :
    ∃ reason, request.normalize.2 = .error (.invalidUri reason) := by
  obtain ⟨hmissing, value, hfirst, hbad⟩ := hmisdirected
  rcases hostAuthority_cases value with ⟨host, hnames, hread⟩ | ⟨-, reason, hread⟩
  · obtain ⟨hconnect, hpath⟩ := hbad.resolve_left fun hnone => hnone ⟨host, hnames⟩
    have hsays : ¬ request.unhosted.uri.isEmpty = true := Bool.eq_false_iff.mp hpath
    refine ⟨UriError.schemeMissing.message, ?_⟩
    rw [normalize_of_named hmissing hfirst hread,
      @completeUri_connect request.unhosted hconnect hmissing host, if_neg hsays]
  · exact ⟨reason, normalize_of_unnamed hmissing hfirst hread⟩

/-- A request that is neither homeless nor misdirected, and whose target names no authority,
takes over the one of its first `host` value. -/
private theorem normalize_of_hosted (hmissing : request.uri.authority? = none)
    (hfirst : request.firstHost? = some value) (hnames : value.Names host)
    (hconnect : request.method ≠ .connect) :
    request.normalize.2 = .ok () ∧ request.IsResolved request.normalize.1 := by
  have hcompleted : request.normalize =
      ({ request.unhosted with uri := request.uri.completed host }, .ok ()) := by
    rw [normalize_of_named hmissing hfirst (hostAuthority_eq_ok_iff.mpr hnames)]
    exact @completeUri_of_ne_connect request.unhosted host (some host) hconnect rfl
  rw [hcompleted]
  exact ⟨rfl, rfl, rfl, rfl, by simp [hmissing], fun hmethod => absurd hmethod hconnect,
    fun _ _ => ⟨host, .inr ⟨hmissing, value, hfirst, hnames⟩, rfl⟩,
    fun _ => request.fields_unhosted, by simp [hmissing]⟩

/-- A `CONNECT` request whose target says nothing goes to the authority of its first `host`
value, and its target names nothing else. -/
private theorem normalize_of_empty (hempty : request.uri.isEmpty = true)
    (hmissing : request.uri.authority? = none) (hfirst : request.firstHost? = some value)
    (hnames : value.Names host) (hconnect : request.method = .connect) :
    request.normalize.2 = .ok () ∧ request.IsResolved request.normalize.1 := by
  have hbare : request.normalize = ({ request.unhosted with uri := .authority host }, .ok ()) := by
    rw [normalize_of_named hmissing hfirst (hostAuthority_eq_ok_iff.mpr hnames),
      @completeUri_connect request.unhosted hconnect hmissing host]
    exact if_pos hempty
  rw [hbare]
  exact ⟨rfl, rfl, rfl, rfl, by simp [hmissing],
    fun _ _ => ⟨hempty, host, .inr ⟨hmissing, value, hfirst, hnames⟩, rfl⟩,
    fun hmethod => absurd hconnect hmethod, fun _ => request.fields_unhosted, by simp [hmissing]⟩

private theorem normalize_of_authority (hhost : request.uri.authority? = some host) :
    request.normalize.2 = .ok () ∧ request.IsResolved request.normalize.1 := by
  have hsome : request.stripped.uri.authority?.isNone = false := by
    rw [stripped, hhost]
    rfl
  by_cases hlacks : request.uri.scheme? = none ∧ request.method ≠ .connect
  · -- Only the scheme, and perhaps the path, is missing.
    obtain ⟨hscheme, hconnect⟩ := hlacks
    have hcompleted : request.normalize =
        ({ request.stripped with uri := request.uri.completed host }, .ok ()) := by
      have hlacking : (request.stripped.uri.scheme?.isNone &&
          request.stripped.method != .connect) = true := by
        simpa [stripped, hscheme] using hconnect
      rw [normalize, resolveTarget, hsome, if_neg Bool.false_ne_true, if_pos hlacking]
      exact @completeUri_of_ne_connect request.stripped host none hconnect hhost
    rw [hcompleted]
    refine ⟨rfl, rfl, rfl, rfl, fun _ hwhole => ?_, fun hmethod => absurd hmethod hconnect,
      fun _ _ => ⟨host, .inl hhost, rfl⟩, by simp [hhost], fun _ => request.fields_stripped⟩
    rcases hwhole with hmethod | hpresent
    · exact absurd hmethod hconnect
    · simp [hscheme] at hpresent
  · have hcomplete : (request.stripped.uri.scheme?.isNone &&
        request.stripped.method != .connect) = false := by
      rw [Bool.eq_false_iff]
      intro hlacking
      rw [Bool.and_eq_true, Option.isNone_iff_eq_none, bne_iff_ne] at hlacking
      exact hlacks hlacking
    have hsame : request.normalize = (request.stripped, .ok ()) := by
      rw [normalize, resolveTarget, hsome, hcomplete]
      rfl
    rw [hsame]
    refine ⟨rfl, rfl, rfl, rfl, fun _ _ => rfl, by simp [hhost], fun hconnect hpart => ?_,
      by simp [hhost], fun _ => request.fields_stripped⟩
    rcases hpart with hscheme | hauthority
    · exact absurd ⟨hscheme, hconnect⟩ hlacks
    · simp [hhost] at hauthority

/-- The three ends, of which each request meets one. -/
theorem normalize_cases (request : Request) :
    (request.IsHomeless ∧ request.normalize.2 = .error .missingAuthority) ∨
      (request.IsMisdirected ∧ ∃ reason, request.normalize.2 = .error (.invalidUri reason)) ∨
      (¬ request.IsHomeless ∧ ¬ request.IsMisdirected ∧ request.normalize.2 = .ok () ∧
        request.IsResolved request.normalize.1) := by
  cases hhost : request.uri.authority? with
  | some host =>
      have hnamed : request.uri.authority? ≠ none := by simp [hhost]
      exact .inr (.inr ⟨fun hhomeless => hnamed hhomeless.1, fun hmissed => hnamed hmissed.1,
        normalize_of_authority hhost⟩)
  | none =>
      cases hfirst : request.firstHost? with
      | none => exact .inl ⟨⟨hhost, hfirst⟩, normalize_of_homeless ⟨hhost, hfirst⟩⟩
      | some value =>
          right
          by_cases hbad : (¬ ∃ host, value.Names host) ∨
              request.method = .connect ∧ request.uri.isEmpty = false
          · have hmisdirected : request.IsMisdirected := ⟨hhost, value, hfirst, hbad⟩
            exact .inl ⟨hmisdirected, normalize_of_misdirected hmisdirected⟩
          · obtain ⟨hnames, hpath⟩ := not_or.mp hbad
            obtain ⟨host, hnamed⟩ := not_not.mp hnames
            refine .inr ⟨fun hhomeless => ?_, fun hmisdirected => ?_, ?_⟩
            · rw [hhomeless.2] at hfirst
              cases hfirst
            · obtain ⟨-, other, hother, hwrong⟩ := hmisdirected
              obtain rfl := Option.some.inj (hother.symm.trans hfirst)
              exact hbad hwrong
            · by_cases hconnect : request.method = .connect
              · have hempty : request.uri.isEmpty = true := by simpa [hconnect] using hpath
                exact normalize_of_empty hempty hhost hfirst hnamed hconnect
              · exact normalize_of_hosted hhost hfirst hnamed hconnect

/-- Normalizing a request is decided by what its target, its method and its first `host` value
say, and by nothing else.  A homeless request misses its authority, a misdirected one has an
invalid target, and any other is accepted and resolved. -/
theorem normalize_decides (request : Request) :
    (request.normalize.2 = .error .missingAuthority ↔ request.IsHomeless) ∧
      ((∃ reason, request.normalize.2 = .error (.invalidUri reason)) ↔ request.IsMisdirected) ∧
      (request.normalize.2 = .ok () ↔ ¬ request.IsHomeless ∧ ¬ request.IsMisdirected) ∧
      (request.normalize.2 = .ok () → request.IsResolved request.normalize.1) := by
  have hexclusive : request.IsHomeless → ¬ request.IsMisdirected := by
    rintro ⟨-, hnone⟩ ⟨-, value, hsome, -⟩
    rw [hnone] at hsome
    cases hsome
  rcases request.normalize_cases with
    ⟨hhomeless, hverdict⟩ | ⟨hmisdirected, reason, hverdict⟩ |
      ⟨hhome, hdirected, hverdict, hresolved⟩
  · simp [hverdict, hhomeless, hexclusive hhomeless]
  · have hhome : ¬ request.IsHomeless := fun hhomeless => hexclusive hhomeless hmisdirected
    simp [hverdict, hmisdirected, hhome]
  · simp [hverdict, hhome, hdirected, hresolved]

/-- A `CONNECT` request with a target that says nothing and a good `host` value is accepted,
although its target had no authority, and its target changes. -/
theorem empty_target_takes_the_host :
    let host : FieldValue := ⟨Octets.ofText "a", by decide⟩
    let request : Request := ⟨.connect, .path ⟨""⟩, .http11, ⟨[(.host, host)]⟩, []⟩
    request.uri.authority? = none ∧ request.firstHost? = some host ∧ host.Names ⟨"a"⟩ ∧
      request.normalize.2 = .ok () ∧ request.normalize.1.uri = .authority ⟨"a"⟩ := by
  intro host request
  refine ⟨rfl, by decide +kernel, hostAuthority_eq_ok_iff.mp ?_, by decide +kernel,
    by decide +kernel⟩
  decide +kernel

end Request

end Multiplex.Http
