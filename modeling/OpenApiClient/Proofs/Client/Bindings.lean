import OpenApiClient.Client.FunctionCode
import OpenApiClient.Proofs.Client.Function
import OpenApiClient.Text.Latin

/-!
# The names inside a function

A function binds its parameters, the payload last, and the constants of its body. The parameters
are kept apart from each other and from the names that the body uses; the constants are chosen
afterwards and kept apart from the parameters only.

Results:
* `allowed_wantedName`, `Allowed.underscored`: the language allows the wanted names, and still
  does when they have grown by underscores.
* `map_ident_ofParameters`: the arguments have fresh names, in the order of their parameters.
* `nodup_map_freshName`: names that grew from bases with different first letters are different,
  although each was chosen without regard to the others.
* `bindings_sound`: the names inside a function are sound, whatever the operation is.
-/
namespace OpenApiClient.Client

open Naming

/-! ## Allowed names -/

/-- A name that the language allows for a binding. -/
structure Allowed (name : String) : Prop where
  plain : isPlain name.toList
  unreserved : name ∉ reservedWords

instance (name : String) : Decidable (Allowed name) :=
  decidable_of_iff (isPlain name.toList ∧ name ∉ reservedWords)
    ⟨fun h => ⟨h.1, h.2⟩, fun h => ⟨h.plain, h.unreserved⟩⟩

theorem isPlain_append {name more : List Char} (h : isPlain name) (hmore : ∀ c ∈ more, c = '_') :
    isPlain (name ++ more) := by
  cases name with
  | nil => cases h
  | cons first rest =>
    simp only [isPlain, List.cons_append, List.all_append, Bool.and_eq_true] at h ⊢
    refine ⟨h.1, h.2, List.all_eq_true.mpr fun c hc => ?_⟩
    rw [hmore c hc]
    decide

/-- Reserved words are written in small letters. -/
theorem reservedWords_lower : reservedWords.all fun word => word.toList.all Char.isLower := by
  decide +kernel

/-- A name with anything else than small letters is no reserved word. -/
theorem notMem_reservedWords {name : String} {c : Char} (hc : c ∈ name.toList)
    (hlower : ¬ c.isLower) : name ∉ reservedWords := fun hname =>
  hlower (List.all_eq_true.mp (List.all_eq_true.mp reservedWords_lower name hname) c hc)

theorem Allowed.underscored {base : String} (h : Allowed base) (k : Nat) :
    Allowed (underscored base k) := by
  constructor
  · rw [underscored_toList]
    exact isPlain_append h.plain fun c hc => List.eq_of_mem_replicate hc
  · cases k with
    | zero => rw [underscored_zero]; exact h.unreserved
    | succ k =>
      refine notMem_reservedWords (c := '_') ?_ (by decide)
      rw [underscored_toList]
      simp

theorem Allowed.freshName {base : String} (h : Allowed base) (taken : List String) :
    Allowed (freshName taken base) := by
  obtain ⟨k, -, heq, -⟩ := freshName_eq taken base
  rw [heq]
  exact h.underscored k

theorem allowed_freshNames {taken bases : List String} (h : ∀ base ∈ bases, Allowed base) :
    ∀ name ∈ freshNames taken bases, Allowed name := by
  intro name hname
  obtain ⟨base, hbase, k, rfl⟩ := mem_freshNames hname
  exact (h base hbase).underscored k

theorem allowed_functionNameBy {spell : List Char → List Char} {segment : String}
    (h : functionNameBy spell segment ≠ "") : Allowed (functionNameBy spell segment) := by
  refine ⟨?_, functionNameBy_notMem_reservedWords spell segment⟩
  obtain ⟨first, hfirst⟩ := Option.ne_none_iff_exists'.mp
    (fun e => h (String.toList_eq_nil_iff.mp (List.head?_eq_none_iff.mp e)))
  refine isPlain_of_chars hfirst ?_ (functionNameBy_chars spell segment)
  exact (head_functionNameBy hfirst).imp_left fun hlower => by simp [Char.isAlpha, hlower]

theorem not_isLower_of_isDigit {c : Char} (h : c.isDigit) : ¬ c.isLower := fun hlower =>
  not_isAlpha_of_isDigit h (by simp [Char.isAlpha, hlower])

/-- A name that is wanted for a parameter is that of a function, or it ends in a digit, as no
reserved word does. -/
theorem allowed_wantedName (spell : List Char → List Char) (index : Nat) (name : String) :
    Allowed (wantedName spell index name) := by
  have hchars := wantedName_chars spell index name
  unfold wantedName at hchars ⊢
  by_cases hname : functionNameBy spell name = ""
  · simp only [hname, if_true] at hchars ⊢
    refine ⟨isPlain_of_chars (c := 'a') (by simp) (.inl (by decide)) hchars, ?_⟩
    obtain ⟨digit, hdigit⟩ :=
      List.exists_mem_of_ne_nil (Nat.toDigits 10 index) Nat.toDigits_ne_nil
    refine notMem_reservedWords (c := digit) (by simp [hdigit]) ?_
    exact not_isLower_of_isDigit (Nat.isDigit_of_mem_toDigits (by decide) (by decide) hdigit)
  · simp only [if_neg hname]
    exact allowed_functionNameBy hname

/-! ## Parameters -/

namespace Argument

/-- The names that parameters would have if each of them were the only one. -/
def wantedNames (spell : List Char → List Char) (parameters : List Parameter) : List String :=
  (parameters.filter isSent).mapIdx fun index parameter => wantedName spell index parameter.name

variable (spell : List Char → List Char) (hasPayload : Bool) (parameters : List Parameter)

theorem length_fresh_wantedNames :
    (freshNames (reserved hasPayload) (wantedNames spell parameters)).length =
      (parameters.filter isSent).length := by
  rw [length_freshNames, wantedNames, List.length_mapIdx]

/-- There is one argument for each parameter that is sent, in their order: what an argument takes
over from its parameter is found again. -/
theorem map_ofParameters {α : Type} (seen : Argument → α) (given : Parameter → α)
    (h : ∀ parameter ident, seen (ofParameter parameter ident) = given parameter) :
    (ofParameters spell hasPayload parameters).map seen = (parameters.filter isSent).map given := by
  have hlength := length_fresh_wantedNames spell hasPayload parameters
  have hseen : seen ∘ Function.uncurry ofParameter = given ∘ Prod.fst :=
    funext fun pair => h pair.1 pair.2
  calc (ofParameters spell hasPayload parameters).map seen
      = (((parameters.filter isSent).zip
          (freshNames (reserved hasPayload) (wantedNames spell parameters))).map
            (Function.uncurry ofParameter)).map seen := by
        rw [List.map_uncurry_zip_eq_zipWith]
        rfl
    _ = (((parameters.filter isSent).zip
          (freshNames (reserved hasPayload) (wantedNames spell parameters))).map Prod.fst).map
            given := by
        rw [List.map_map, List.map_map, hseen]
    _ = _ := by rw [List.map_fst_zip hlength.ge]

theorem map_name_ofParameters :
    (ofParameters spell hasPayload parameters).map (·.name) =
      (parameters.filter isSent).map (·.name) :=
  map_ofParameters spell hasPayload parameters (·.name) (·.name) fun _ _ => rfl

/-- The arguments have fresh names, in the order of their parameters. -/
theorem map_ident_ofParameters :
    (ofParameters spell hasPayload parameters).map (·.ident) =
      freshNames (reserved hasPayload) (wantedNames spell parameters) := by
  have hlength := length_fresh_wantedNames spell hasPayload parameters
  calc (ofParameters spell hasPayload parameters).map (·.ident)
      = ((parameters.filter isSent).zip
          (freshNames (reserved hasPayload) (wantedNames spell parameters))).map Prod.snd := by
        rw [List.map_zip_eq_zipWith, ofParameters, List.map_zipWith]
        rfl
    _ = _ := List.map_snd_zip hlength.le

theorem allowed_wantedNames : ∀ base ∈ wantedNames spell parameters, Allowed base := by
  intro base hbase
  obtain ⟨index, _, rfl⟩ := List.mem_mapIdx.mp hbase
  exact allowed_wantedName spell index _

end Argument

/-! ## Constants of the body -/

/-- Names that grew from bases with different first letters are different, although none was
chosen with regard to the others. -/
theorem nodup_map_freshName (taken : List String) {bases : List String} (hne : "" ∉ bases)
    (h : (bases.map (·.toList.head?)).Nodup) : (bases.map (freshName taken)).Nodup := by
  have hheads : (bases.map (freshName taken)).map (·.toList.head?) =
      bases.map (·.toList.head?) := by
    rw [List.map_map]
    exact List.map_congr_left fun base hbase =>
      head_freshName taken fun e => hne (e ▸ hbase)
  exact List.Nodup.of_map (·.toList.head?) (hheads ▸ h)

namespace Locals

def names (locals : Locals) : List String :=
  [locals.query, locals.url, locals.response, locals.decoded]

/-- The names that the constants would have if there were no parameters. -/
def bases (hasPayload : Bool) : List String :=
  ["qs", "url", "response", if hasPayload then "data" else "body"]

theorem names_ofFunction (function : ClientFunction) :
    (ofFunction function).names =
      (bases function.payload.isSome).map (freshName function.signature) := rfl

theorem allowed_bases (hasPayload : Bool) : ∀ base ∈ bases hasPayload, Allowed base := by
  cases hasPayload <;> decide +kernel

theorem nodup_heads_bases (hasPayload : Bool) :
    ((bases hasPayload).map (·.toList.head?)).Nodup := by
  cases hasPayload <;> decide

/-- No constant starts like a name from outside that the body uses. -/
theorem head_notMem_bodyGlobals (hasPayload : Bool) :
    ∀ base ∈ bases hasPayload, base.toList.head? ∉ bodyGlobals.map (·.toList.head?) := by
  cases hasPayload <;> decide

theorem ne_empty_of_mem_bases {hasPayload : Bool} {base : String} (h : base ∈ bases hasPayload) :
    base ≠ "" := by
  rintro rfl
  exact absurd (allowed_bases hasPayload _ h).plain (by decide)

end Locals

/-! ## Sound bindings -/

/-- The names that a function binds: its parameters and the constants of its body. -/
def boundNames (function : ClientFunction) : List String :=
  function.signature ++ (Locals.ofFunction function).names

/-- The names inside a function are different from each other, the language allows them, none of
them hides a name from outside that the body uses, and the name under which the body sends the
payload stands for the last parameter and for nothing else. -/
structure SoundBindings (function : ClientFunction) : Prop where
  distinct : (boundNames function).Nodup
  allowed : ∀ name ∈ boundNames function, Allowed name
  visible : ∀ name ∈ boundNames function, name ∉ bodyGlobals
  sent : function.payload.isSome →
    function.signature.getLast? = some payloadName ∧ (boundNames function).count payloadName = 1

theorem mem_signature_iff {function : ClientFunction} {name : String} :
    name ∈ function.signature ↔ name ∈ function.arguments.map (·.ident) ∨
      (function.payload.isSome ∧ name = payloadName) := by
  unfold ClientFunction.signature
  split <;> rename_i h <;> simp [h]

/-- The constants of a body differ from each other and from the parameters. -/
theorem nodup_boundNames {function : ClientFunction} (h : function.signature.Nodup) :
    (boundNames function).Nodup := by
  rw [boundNames, Locals.names_ofFunction, List.nodup_append]
  refine ⟨h, nodup_map_freshName _ (fun hm => Locals.ne_empty_of_mem_bases hm rfl)
    (Locals.nodup_heads_bases _), ?_⟩
  intro name hname other hother e
  obtain ⟨base, -, rfl⟩ := List.mem_map.mp hother
  exact freshName_notMem function.signature base (e ▸ hname)

theorem allowed_constant {function : ClientFunction} {name : String}
    (h : name ∈ (Locals.ofFunction function).names) : Allowed name := by
  rw [Locals.names_ofFunction] at h
  obtain ⟨base, hbase, rfl⟩ := List.mem_map.mp h
  exact (Locals.allowed_bases _ base hbase).freshName _

theorem constant_notMem_bodyGlobals {function : ClientFunction} {name : String}
    (h : name ∈ (Locals.ofFunction function).names) : name ∉ bodyGlobals := by
  rw [Locals.names_ofFunction] at h
  obtain ⟨base, hbase, rfl⟩ := List.mem_map.mp h
  intro hm
  have hhead := List.mem_map_of_mem (f := (·.toList.head?)) hm
  rw [head_freshName _ (Locals.ne_empty_of_mem_bases hbase)] at hhead
  exact Locals.head_notMem_bodyGlobals _ base hbase hhead

section

variable {function : ClientFunction} {bases : List String}
  (hfresh : function.arguments.map (·.ident) =
    freshNames (Argument.reserved function.payload.isSome) bases)

include hfresh

/-- No parameter takes the name of the payload or one that the body uses. -/
theorem ident_notMem_reserved : ∀ ident ∈ function.arguments.map (·.ident),
    ident ∉ Argument.reserved function.payload.isSome := by
  rw [hfresh]
  exact fun ident => notMem_of_mem_freshNames

theorem payloadName_notMem_idents (h : function.payload.isSome) :
    payloadName ∉ function.arguments.map (·.ident) := fun hm =>
  ident_notMem_reserved hfresh payloadName hm (by simp [Argument.reserved, h])

theorem nodup_signature : function.signature.Nodup := by
  have hidents : (function.arguments.map (·.ident)).Nodup := hfresh ▸ nodup_freshNames _ _
  unfold ClientFunction.signature
  split
  · rename_i hpayload
    exact List.nodup_append.mpr ⟨hidents, List.nodup_singleton _, fun name hname other hother e =>
      payloadName_notMem_idents hfresh hpayload (List.mem_singleton.mp hother ▸ e ▸ hname)⟩
  · rwa [List.append_nil]

theorem parameter_notMem_bodyGlobals : ∀ name ∈ function.signature, name ∉ bodyGlobals := by
  intro name hname
  rcases mem_signature_iff.mp hname with hident | ⟨-, rfl⟩
  · have hreserved := ident_notMem_reserved hfresh name hident
    unfold Argument.reserved at hreserved
    split at hreserved
    · exact fun hm => hreserved (List.mem_cons_of_mem _ hm)
    · exact hreserved
  · decide

/-- Whatever a function is made from, its names are sound if its arguments have fresh names that
grew from allowed ones. -/
theorem soundBindings_of_fresh (hbases : ∀ base ∈ bases, Allowed base) :
    SoundBindings function := by
  have hdistinct := nodup_boundNames (nodup_signature hfresh)
  refine ⟨hdistinct, ?_, ?_, ?_⟩
  · intro name hname
    rcases List.mem_append.mp hname with hparameter | hconstant
    · rcases mem_signature_iff.mp hparameter with hident | ⟨-, rfl⟩
      · exact allowed_freshNames hbases name (hfresh ▸ hident)
      · decide +kernel
    · exact allowed_constant hconstant
  · intro name hname
    rcases List.mem_append.mp hname with hparameter | hconstant
    · exact parameter_notMem_bodyGlobals hfresh name hparameter
    · exact constant_notMem_bodyGlobals hconstant
  · intro hpayload
    have hlast : function.signature.getLast? = some payloadName := by
      rw [ClientFunction.signature, if_pos hpayload, List.getLast?_concat]
    exact ⟨hlast, List.count_eq_one_of_mem hdistinct
      (List.mem_append_left _ (List.mem_of_getLast? hlast))⟩

end

/-- The type of what is sent is that of the JSON body. -/
theorem Payload.map_typeText_ofOperation? (parse : List Char → Option MediaType)
    (operation : Operation) :
    (Payload.ofOperation? parse operation).map (·.typeText) =
      (operation.jsonBodyBy? parse).map (·.nullableTypeText modelsQualifier) := by
  unfold Payload.ofOperation? Operation.jsonBodyBy?
  cases operation.requestBody with
  | none => rfl
  | some body => cases hjson : body.content.jsonSchemaBy? parse <;> simp [hjson]

/-- A function has a payload exactly if the operation takes JSON. -/
theorem isSome_payload_ofOperation (spell : List Char → List Char)
    (parse : List Char → Option MediaType) (name : String) (method : Method) (path : String)
    (operation : Operation) :
    (ClientFunction.ofOperation spell parse name method path operation).payload.isSome =
      (operation.jsonBodyBy? parse).isSome := by
  have htypes := congrArg Option.isSome (Payload.map_typeText_ofOperation? parse operation)
  rw [Option.isSome_map, Option.isSome_map] at htypes
  exact htypes

/-- The function for an operation has one parameter for each parameter that is sent, and the
payload last if the operation takes JSON. Its names are sound, however the parameters are called:
different parameters may lead to one name, to none at all, to a reserved word or to a name that
the body uses. It does not matter how names are spelt, or which media types are JSON. -/
theorem bindings_sound (spell : List Char → List Char) (parse : List Char → Option MediaType)
    (name : String) (method : Method) (path : String) (operation : Operation) :
    let function := ClientFunction.ofOperation spell parse name method path operation
    function.arguments.map (·.name) =
        (operation.parameters.filter Argument.isSent).map (·.name) ∧
      function.signature = function.arguments.map (·.ident) ++
        (if (operation.jsonBodyBy? parse).isSome then [payloadName] else []) ∧
      SoundBindings function := by
  refine ⟨Argument.map_name_ofParameters _ _ _, ?_, ?_⟩
  · rw [← isSome_payload_ofOperation spell parse name method path operation]
    rfl
  · exact soundBindings_of_fresh (Argument.map_ident_ofParameters _ _ _)
      (Argument.allowed_wantedNames spell operation.parameters)

/-! ## A crowded function -/

/-- An operation that takes JSON, with parameters of the given names in its query. -/
def crowdedOperation (names : List String) : Operation :=
  { parameters := names.map fun name => ⟨name, .query, .unknown, none⟩
    requestBody := some { content := .ofList [("application/json", .unknown)] } }

theorem bindings_sound_crowded :
    let function := ClientFunction.ofOperation Text.latin MediaType.ofText? "list" .get
      "/pets/list" (crowdedOperation
        ["body", "page_size", "pageSize", "fetch", "", "arg4", "class", "qs", "url"])
    function.signature =
        ["body_", "pageSize", "pageSize_", "fetch_", "arg4", "arg4_", "class_", "qs", "url",
          "body"] ∧
      (Locals.ofFunction function).names = ["qs_", "url_", "response", "data"] ∧
      (boundNames function).count "body" = 1 ∧ (boundNames function).Nodup := by
  intro function
  obtain ⟨-, -, hsound⟩ := bindings_sound Text.latin MediaType.ofText? "list" .get "/pets/list"
    (crowdedOperation ["body", "page_size", "pageSize", "fetch", "", "arg4", "class", "qs", "url"])
  have hsignature : function.signature =
      ["body_", "pageSize", "pageSize_", "fetch_", "arg4", "arg4_", "class_", "qs", "url",
        "body"] := by decide +kernel
  refine ⟨hsignature, ?_, (hsound.sent ?_).2, hsound.distinct⟩
  · rw [Locals.names_ofFunction, hsignature]
    decide +kernel
  · decide +kernel

end OpenApiClient.Client
