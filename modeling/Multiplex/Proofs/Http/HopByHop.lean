import Mathlib.Data.List.DropRight
import Multiplex.Http.Normalize

/-!
# Which fields are left of a normalized request

The fields that concern one connection are named in two ways: five of them are known, and
the `connection` fields of a request name others, token by token.  What a normalized request
holds under a name is what the request held, unless the name is one of the five, is nominated
by a `connection` value that is text, is `te` with a value other than `trailers`, or is `host`.

## Where nominations get lost

A nomination is read here off the octets of a value: the value is cut at its commas, the
blanks around each part are dropped, and what is left is compared with a name without regard
to case.  The definitions that normalize a request read the value as text first, and a value
with one octet outside of printable ASCII is no text: all its nominations are lost.
`Fields.mem_nominated_iff` says that nothing else on the way, no empty or malformed token,
loses one.
-/

namespace Multiplex.Http

/-! ## Nominations -/

/-- The blanks around a token, as octets. -/
def isBlankOctet (octet : UInt8) : Bool := octet == 32 || octet == 9

/-- The tokens of a list field: what stands between the commas of its value, without the
blanks on both sides. -/
def listTokens (octets : Octets) : List Octets :=
  (octets.splitOn 44).map fun part => (part.dropWhile isBlankOctet).rdropWhile isBlankOctet

/-- One of the tokens of a value spells a name, whatever the case of its letters. -/
def FieldValue.Nominates (value : FieldValue) (name : FieldName) : Prop :=
  ∃ token ∈ listTokens value.octets,
    Fields.sameIgnoringCase token (Octets.ofText name.text) = true

/-- A value whose octets are all printable text. -/
def FieldValue.IsText (value : FieldValue) : Prop := value.octets.all isTextOctet = true

/-! ## Octets as characters -/

/-- The character that an octet of a text stands for. -/
def octetChar (octet : UInt8) : Char := Char.ofNat octet.toNat

/-- An octet without the case of a letter. -/
def lowerOctet (octet : UInt8) : UInt8 := if 65 ≤ octet && octet ≤ 90 then octet + 32 else octet

@[simp] theorem toNat_octetChar (octet : UInt8) : (octetChar octet).toNat = octet.toNat := by
  have hlt : octet.toNat < 256 := octet.toNat_lt
  have hvalid : octet.toNat.isValidChar := .inl (by omega)
  rw [octetChar, Char.ofNat, dif_pos hvalid]
  rfl

theorem octetChar_eq_iff {octet : UInt8} {c : Char} :
    octetChar octet = c ↔ octet.toNat = c.toNat := by
  rw [← Char.toNat_inj, toNat_octetChar]

theorem octetChar_injective : Function.Injective octetChar := by
  intro left right hsame
  rw [octetChar_eq_iff, toNat_octetChar] at hsame
  exact UInt8.toNat_inj.mp hsame

theorem octetChar_beq {octet other : UInt8} {c : Char} (hother : octetChar other = c) :
    (octetChar octet == c) = (octet == other) := by
  rw [← hother, Bool.eq_iff_iff, beq_iff_eq, beq_iff_eq]
  exact octetChar_injective.eq_iff

private theorem octetChar_beq_comma (octet : UInt8) : (octetChar octet == ',') = (octet == 44) :=
  octetChar_beq (by decide)

private theorem isListBlank_octetChar (octet : UInt8) :
    isListBlank (octetChar octet) = isBlankOctet octet := by
  have hspace : octetChar 32 = ' ' := by decide
  have htab : octetChar 9 = '\t' := by decide
  rw [isListBlank, isBlankOctet, octetChar_beq hspace, octetChar_beq htab]

private theorem toLower_octetChar (octet : UInt8) :
    (octetChar octet).toLower = octetChar (lowerOctet octet) := by
  have hval : (octetChar octet).val.toNat = octet.toNat := toNat_octetChar octet
  have hletter : ((octetChar octet).val ≥ 'A'.val ∧ (octetChar octet).val ≤ 'Z'.val) ↔
      (65 ≤ octet && octet ≤ 90) = true := by
    simp only [ge_iff_le, UInt32.le_iff_toNat_le, UInt8.le_iff_toNat_le, Bool.and_eq_true,
      decide_eq_true_eq, hval]
    rfl
  delta Char.toLower
  rw [lowerOctet]
  by_cases hupper : (65 ≤ octet && octet ≤ 90) = true
  · rw [dif_pos (hletter.mpr hupper), if_pos hupper, ← Char.toNat_inj, toNat_octetChar]
    have hbound : octet.toNat ≤ 90 := hval ▸ UInt32.le_iff_toNat_le.mp (hletter.mpr hupper).2
    simp only [Char.toNat, UInt32.toNat_add, UInt8.toNat_add, hval]
    change (octet.toNat + 32) % 2 ^ 32 = (octet.toNat + 32) % 2 ^ 8
    omega
  · rw [dif_neg (mt hletter.mp hupper), if_neg hupper]

theorem FieldValue.text?_eq_some_iff {value : FieldValue} {text : String} :
    value.text? = some text ↔
      value.IsText ∧ text = String.ofList (value.octets.map octetChar) := by
  rw [FieldValue.text?, FieldValue.IsText]
  split
  · next htext => simp only [htext, Option.some.injEq, true_and]; exact eq_comm
  · next htext => simp [htext]

/-! ## The tokens of a text -/

private theorem splitAtCommas_map (octets : Octets) :
    splitAtCommas (octets.map octetChar) = (octets.splitOn 44).map (List.map octetChar) := by
  induction octets with
  | nil => rfl
  | cons octet rest ih =>
    rw [List.map_cons, splitAtCommas, octetChar_beq_comma, List.splitOn_cons_eq_if_modifyHead, ih]
    by_cases hcomma : octet = 44
    · simp [hcomma]
    · have hnot : (octet == 44) = false := by simpa using hcomma
      obtain ⟨first, others, hsplit⟩ := List.exists_cons_of_ne_nil (List.splitOn_ne_nil 44 rest)
      simp [hnot, hsplit]

private theorem trimBlanks_map (part : Octets) :
    trimBlanks (part.map octetChar) =
      ((part.dropWhile isBlankOctet).rdropWhile isBlankOctet).map octetChar := by
  have hblank : isListBlank ∘ octetChar = isBlankOctet := funext isListBlank_octetChar
  rw [trimBlanks, List.rdropWhile, List.dropWhile_map, hblank, ← List.map_reverse,
    List.dropWhile_map, hblank, List.map_reverse]

theorem listElements_ofOctets (octets : Octets) :
    listElements (String.ofList (octets.map octetChar)) =
      (listTokens octets).map fun token => String.ofList (token.map octetChar) := by
  simp only [listElements, listTokens, String.toList_ofList, splitAtCommas_map, List.map_map,
    Function.comp_def, trimBlanks_map]

/-! ## Tokens and names -/

private theorem ofText?_eq_some_iff {text : String} {name : FieldName} :
    FieldName.ofText? text = some name ↔ text.toLower = name.text := by
  rw [FieldName.ofText?]
  constructor
  · intro hread
    split at hread
    · obtain rfl := Option.some.inj hread
      rfl
    · cases hread
  · intro hlower
    have hname : isFieldName text.toLower = true := hlower ▸ name.isName
    rw [dif_pos hname, Option.some.injEq, FieldName.mk.injEq]
    exact hlower

private theorem toNat_lt_of_isTokenChar {c : Char} (htoken : isTokenChar c = true) :
    c.toNat < 128 := by
  rw [isTokenChar, Bool.or_eq_true] at htoken
  rcases htoken with hletter | hmark
  · delta Char.isAlphanum Char.isAlpha Char.isUpper Char.isLower Char.isDigit at hletter
    simp only [Bool.or_eq_true, Bool.and_eq_true, decide_eq_true_eq, UInt32.le_iff_toNat_le,
      ge_iff_le] at hletter
    have hupper : 'Z'.val.toNat = 90 := rfl
    have hlower : 'z'.val.toNat = 122 := rfl
    have hdigit : '9'.val.toNat = 57 := rfl
    have hvalue : c.toNat = c.val.toNat := rfl
    omega
  · have hmarks : ("!#$%&'*+-.^_`|~".toList.all fun mark => mark.toNat < 128) = true := by decide
    simpa using List.all_eq_true.mp hmarks c (by simpa using hmark)

theorem isTokenChar_of_mem {name : FieldName} {c : Char} (hmem : c ∈ name.text.toList) :
    isTokenChar c = true ∧ c.isUpper = false := by
  have hname := name.isName
  simp only [isFieldName, Bool.and_eq_true, List.all_eq_true, Bool.not_eq_true'] at hname
  exact hname.2 c hmem

private theorem toLower_of_isUpper {c : Char} (hupper : c.isUpper = false) : c.toLower = c :=
  dif_neg (of_decide_eq_false hupper)

private theorem map_toLower_text (name : FieldName) :
    name.text.toList.map Char.toLower = name.text.toList := by
  conv_rhs => rw [← List.map_id name.text.toList]
  exact List.map_congr_left fun c hmem => toLower_of_isUpper (isTokenChar_of_mem hmem).2

private theorem map_ofText_ofList {chars : List Char} (hascii : ∀ c ∈ chars, c.toNat < 128) :
    (Octets.ofText (String.ofList chars)).map octetChar = chars := by
  have hencode : Octets.ofText (String.ofList chars) = chars.flatMap String.utf8EncodeChar := by
    simp [Octets.ofText, String.toUTF8_eq_toByteArray, String.toByteArray_ofList, List.utf8Encode]
  rw [hencode, List.map_flatMap]
  clear hencode
  induction chars with
  | nil => rfl
  | cons c rest ih =>
    have hsmall : c.toNat < 128 := hascii c List.mem_cons_self
    have hsize : c.utf8Size = 1 := by
      rw [Char.utf8Size_eq_one_iff]
      exact UInt32.le_iff_toNat_le.mpr (Nat.le_of_lt_succ hsmall)
    have hoctet : octetChar c.val.toUInt8 = c := by
      rw [octetChar_eq_iff]
      exact Nat.mod_eq_of_lt (Nat.lt_trans hsmall (by decide))
    rw [List.flatMap_cons, ih fun other hmem => hascii other (List.mem_cons_of_mem c hmem),
      String.utf8EncodeChar_eq_singleton hsize, List.map_singleton, hoctet, List.singleton_append]

theorem ofText?_token_iff {token : Octets} {name : FieldName} :
    FieldName.ofText? (String.ofList (token.map octetChar)) = some name ↔
      Fields.sameIgnoringCase token (Octets.ofText name.text) = true := by
  have hascii : ∀ c ∈ name.text.toList, c.toNat < 128 := fun c hmem =>
    toNat_lt_of_isTokenChar (isTokenChar_of_mem hmem).1
  have hspelled : (Octets.ofText name.text).map octetChar = name.text.toList := by
    conv_lhs => rw [← String.ofList_toList (s := name.text)]
    exact map_ofText_ofList hascii
  have hlower : ∀ octets : Octets, (octets.map octetChar).map Char.toLower =
      (octets.map lowerOctet).map octetChar := fun octets => by
    simp only [List.map_map, Function.comp_def, toLower_octetChar]
  have hread : (String.ofList (token.map octetChar)).toLower.toList =
      (token.map octetChar).map Char.toLower := by
    have hmap : (String.ofList (token.map octetChar)).toLower =
        (String.ofList (token.map octetChar)).map Char.toLower := rfl
    rw [hmap, String.toList_map, String.toList_ofList]
  calc FieldName.ofText? (String.ofList (token.map octetChar)) = some name
      ↔ (token.map octetChar).map Char.toLower = name.text.toList := by
        rw [ofText?_eq_some_iff, ← String.toList_inj, hread]
    _ ↔ (token.map lowerOctet).map octetChar =
          ((Octets.ofText name.text).map lowerOctet).map octetChar := by
        rw [hlower, ← hlower (Octets.ofText name.text), hspelled, map_toLower_text]
    _ ↔ token.map lowerOctet = (Octets.ofText name.text).map lowerOctet :=
        (List.map_injective_iff.mpr octetChar_injective).eq_iff
    _ ↔ Fields.sameIgnoringCase token (Octets.ofText name.text) = true := by
        rw [Fields.sameIgnoringCase, beq_iff_eq]
        rfl

/-! ## What is left of the fields -/

namespace Fields

/-- A name is nominated exactly by the `connection` values that are text and nominate it. -/
theorem mem_nominated_iff {fields : Fields} {name : FieldName} :
    name ∈ fields.nominated ↔
      ∃ value ∈ fields.values .connection, value.IsText ∧ value.Nominates name := by
  simp only [nominated, List.mem_flatMap, List.mem_filterMap]
  constructor
  · rintro ⟨text, ⟨value, hvalue, hread⟩, element, helement, hname⟩
    obtain ⟨htext, rfl⟩ := FieldValue.text?_eq_some_iff.mp hread
    rw [listElements_ofOctets, List.mem_map] at helement
    obtain ⟨token, htoken, rfl⟩ := helement
    exact ⟨value, hvalue, htext, token, htoken, ofText?_token_iff.mp hname⟩
  · rintro ⟨value, hvalue, htext, token, htoken, hsame⟩
    refine ⟨_, ⟨value, hvalue, FieldValue.text?_eq_some_iff.mpr ⟨htext, rfl⟩⟩,
      String.ofList (token.map octetChar), ?_, ofText?_token_iff.mpr hsame⟩
    rw [listElements_ofOctets]
    exact List.mem_map_of_mem htoken

theorem values_removeAll (fields : Fields) (names : List FieldName) (name : FieldName) :
    (fields.removeAll names).values name = if name ∈ names then [] else fields.values name := by
  induction names generalizing fields with
  | nil => rfl
  | cons first rest ih =>
    rw [removeAll, List.foldl_cons, ← removeAll, ih]
    by_cases hname : name = first
    · subst hname
      simp
    · simp [hname, values_remove_of_ne fields hname]

private theorem values_restrictTe_of_ne (fields : Fields) {name : FieldName} (hne : name ≠ .te) :
    fields.restrictTe.values name = fields.values name := by
  rw [restrictTe]
  split
  · rfl
  · exact values_remove_of_ne fields hne

/-- The values of `te` are kept together or removed together. -/
theorem values_restrictTe_te (fields : Fields) :
    fields.restrictTe.values .te = [] ∨
      fields.restrictTe.values .te = fields.values .te ∧ fields.acceptsTrailersOnly = true := by
  rw [restrictTe]
  split
  · next htrailers => exact .inr ⟨rfl, htrailers⟩
  · exact .inl (values_remove_self fields .te)

theorem values_remove_eq_nil {fields : Fields} {name : FieldName}
    (hnone : fields.values name = []) (other : FieldName) :
    (fields.remove other).values name = [] := by
  by_cases hname : name = other
  · subst hname
    exact values_remove_self fields name
  · rw [values_remove_of_ne fields hname, hnone]

private theorem values_restrictTe_eq_nil {fields : Fields} {name : FieldName}
    (hnone : fields.values name = []) : fields.restrictTe.values name = [] := by
  rw [restrictTe]
  split
  · exact hnone
  · exact values_remove_eq_nil hnone .te

theorem values_stripConnection_eq_nil {fields : Fields} {name : FieldName}
    (hremoved : name ∈ fields.nominated ∨ name ∈ hopByHop) :
    fields.stripConnection.values name = [] := by
  refine values_restrictTe_eq_nil ?_
  rw [values_removeAll, values_removeAll]
  rcases hremoved with hnominated | hhop
  · rw [if_pos hnominated, ite_self]
  · rw [if_pos hhop]

theorem values_stripConnection {fields : Fields} {name : FieldName}
    (hnominated : name ∉ fields.nominated) (hhop : name ∉ hopByHop) (hte : name ≠ .te) :
    fields.stripConnection.values name = fields.values name := by
  rw [stripConnection, values_restrictTe_of_ne _ hte, values_removeAll, values_removeAll,
    if_neg hhop, if_neg hnominated]

/-- What is left of `te` is all that there was, and all of it asks for trailers. -/
theorem trailers_of_stripConnection {fields : Fields}
    (hleft : fields.stripConnection.values .te ≠ []) {value : FieldValue}
    (hvalue : value ∈ fields.values .te) :
    sameIgnoringCase value.octets (Octets.ofText "trailers") = true := by
  have hnominated : FieldName.te ∉ fields.nominated := fun hmem =>
    hleft (values_stripConnection_eq_nil (.inl hmem))
  have hhop : FieldName.te ∉ hopByHop := by decide
  obtain hnone | ⟨-, htrailers⟩ :=
    values_restrictTe_te ((fields.removeAll fields.nominated).removeAll hopByHop)
  · exact absurd hnone hleft
  · rw [acceptsTrailersOnly, values_removeAll, values_removeAll, if_neg hhop, if_neg hnominated]
      at htrailers
    exact List.all_eq_true.mp htrailers value hvalue

end Fields

/-! ## Normalized requests -/

namespace Request

theorem fields_completeUri (request : Request) (authority : Option Authority) :
    (request.completeUri authority).1.fields = request.fields := by
  simp only [completeUri]
  split <;> rfl

/-- Making the target absolute removes the `host` field at most. -/
theorem fields_resolveTarget (request : Request) :
    request.resolveTarget.1.fields = request.fields ∨
      request.resolveTarget.1.fields = request.fields.remove .host := by
  simp only [resolveTarget]
  split
  · split
    · exact .inl rfl
    · split
      · exact .inr rfl
      · exact .inr (fields_completeUri _ _)
  · split
    · exact .inl (fields_completeUri _ _)
    · exact .inl rfl

theorem fields_stripped (request : Request) :
    request.stripped.fields = request.fields.stripConnection := by rw [stripped]

theorem values_normalize_eq_nil {request : Request} {name : FieldName}
    (hnone : request.fields.stripConnection.values name = []) :
    request.normalize.1.fields.values name = [] := by
  rcases request.stripped.fields_resolveTarget with hsame | hhost
  · rw [normalize, hsame, fields_stripped, hnone]
  · rw [normalize, hhost, fields_stripped]
    exact Fields.values_remove_eq_nil hnone .host

theorem values_normalize {request : Request} {name : FieldName} (hne : name ≠ .host) :
    request.normalize.1.fields.values name = request.fields.stripConnection.values name := by
  rcases request.stripped.fields_resolveTarget with hsame | hhost
  · rw [normalize, hsame, fields_stripped]
  · rw [normalize, hhost, fields_stripped, Fields.values_remove_of_ne _ hne]

/-- However a request is normalized, nothing is left under a name that one of its `connection`
values nominates, if that value is text, nor under the five names that concern one connection;
`te` is left only if each of its values is `trailers`.  All other values are kept, those whose
name is nominated only by values that are no text included. -/
theorem values_of_normalize (request : Request) :
    (∀ value ∈ request.fields.values .connection, value.IsText → ∀ name, value.Nominates name →
      request.normalize.1.fields.values name = []) ∧
    (∀ name ∈ [FieldName.connection, .keepAlive, .proxyConnection, .transferEncoding, .upgrade],
      request.normalize.1.fields.values name = []) ∧
    (request.normalize.1.fields.values .te ≠ [] → ∀ value ∈ request.fields.values .te,
      Fields.sameIgnoringCase value.octets (Octets.ofText "trailers") = true) ∧
    (∀ name, name ∉ Fields.hopByHop → name ≠ .te → name ≠ .host →
      (∀ value ∈ request.fields.values .connection, value.IsText → ¬ value.Nominates name) →
      request.normalize.1.fields.values name = request.fields.values name) := by
  refine ⟨fun value hvalue htext name hnominates => ?_, fun name hname => ?_,
    fun hleft value hvalue => ?_, fun name hhop hte hhost hnone => ?_⟩
  · have hmem : name ∈ request.fields.nominated :=
      Fields.mem_nominated_iff.mpr ⟨value, hvalue, htext, hnominates⟩
    exact values_normalize_eq_nil (Fields.values_stripConnection_eq_nil (.inl hmem))
  · have hhop : name ∈ Fields.hopByHop := by
      revert name
      decide
    exact values_normalize_eq_nil (Fields.values_stripConnection_eq_nil (.inr hhop))
  · rw [values_normalize (by decide)] at hleft
    exact Fields.trailers_of_stripConnection hleft hvalue
  · have hnominated : name ∉ request.fields.nominated := fun hmem => by
      obtain ⟨value, hvalue, htext, hnominates⟩ := Fields.mem_nominated_iff.mp hmem
      exact hnone value hvalue htext hnominates
    rw [values_normalize hhost]
    exact Fields.values_stripConnection hnominated hhop hte

/-- A field that concerns one connection only where a `connection` value says so. -/
def hopName : FieldName := ⟨"x-hop", by decide +kernel⟩

/-- A request with a field that its `connection` value may nominate. -/
def hopping (connection : FieldValue) : Request :=
  { method := ⟨"GET", by decide +kernel⟩
    uri := .absolute .https ⟨"a"⟩ .slash
    version := .http11
    fields := ⟨[(.connection, connection), (hopName, ⟨[49], by decide⟩),
      (.te, ⟨Octets.ofText "Trailers", by decide +kernel⟩)]⟩
    body := [] }

/-- The value `x, X-Hop ,` nominates the field, which goes; `te` stays. -/
theorem values_of_normalize_hopping :
    ∃ value : FieldValue, value.IsText ∧ value.Nominates hopName ∧
      (hopping value).normalize.1.fields.values hopName = [] ∧
      (hopping value).normalize.1.fields.values .connection = [] ∧
      (hopping value).normalize.1.fields.values .te ≠ [] ∧
      (∀ kept ∈ (hopping value).fields.values .te,
        Fields.sameIgnoringCase kept.octets (Octets.ofText "trailers") = true) := by
  let value : FieldValue := ⟨Octets.ofText "x, X-Hop ,", by decide +kernel⟩
  have hmem : value ∈ (hopping value).fields.values .connection := by decide +kernel
  have htext : value.IsText := by unfold FieldValue.IsText; decide +kernel
  have hnominates : value.Nominates hopName :=
    ⟨Octets.ofText "X-Hop", by decide +kernel, by decide +kernel⟩
  have hleft : (hopping value).normalize.1.fields.values .te ≠ [] := by decide +kernel
  obtain ⟨hgone, hknown, htrailers, -⟩ := values_of_normalize (hopping value)
  exact ⟨value, htext, hnominates, hgone value hmem htext hopName hnominates,
    hknown .connection (by decide), hleft, htrailers hleft⟩

/-- The value `x-hop, ÿ` in Latin-1 nominates the field as well, and the field stays: because of
its last octet the value is no text, and none of its tokens is read. -/
theorem nomination_lost_in_unread_value :
    ¬ ∀ request : Request, ∀ value ∈ request.fields.values .connection, ∀ name,
      value.Nominates name → request.normalize.1.fields.values name = [] := by
  intro hstripped
  let value : FieldValue := ⟨[120, 45, 104, 111, 112, 44, 32, 255], by decide +kernel⟩
  have hmem : value ∈ (hopping value).fields.values .connection := by decide +kernel
  have hnominates : value.Nominates hopName :=
    ⟨Octets.ofText "x-hop", by decide +kernel, by decide +kernel⟩
  have hkept : (hopping value).normalize.1.fields.values hopName ≠ [] := by decide +kernel
  exact hkept (hstripped (hopping value) value hmem hopName hnominates)

end Request

end Multiplex.Http
