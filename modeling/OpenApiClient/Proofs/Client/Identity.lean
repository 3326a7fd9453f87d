import Mathlib.Algebra.Group.Nat.Defs
import OpenApiClient.Client.Identity

/-!
# What the identity of a function tells

`ClientFunction.identity` writes five fields one after the other, each text behind its length in
eight bytes. A length of 2^64 or more does not fit into eight bytes, so everything here is about
texts below that bound (`Fits`).

Results:
* `fieldBytes_append_inj`: a field can be told from what follows it.
* `flatMap_fieldBytes_inj`: different lists of fields give different bytes.
* `eq_fields_of_identity`: functions with one identity agree on name, parameters, type of the
  answer, method and path.
* `identity_eq_iff`: functions have one identity exactly if they have one key.
* `identity_tells_fields`: the identity tells every field, and where the parameters end.
-/
namespace OpenApiClient

theorem Method.eq_of_token {a b : Method} (h : a.token = b.token) : a = b := by
  cases a; cases b; exact congrArg Method.mk h

namespace Client

/-! ## Bytes of a text -/

/-- Reading bytes one by one from `i` on puts those from `i` on behind what has been read. -/
theorem bytes_read_from (bytes : ByteArray) (i : Nat) (read : List UInt8) :
    ByteArray.toList.loop bytes i read = read.reverse ++ bytes.data.toList.drop i := by
  induction i, read using ByteArray.toList.loop.induct bytes with
  | case1 i read hi ih =>
    have hl : i < bytes.data.toList.length := by rw [Array.length_toList]; exact hi
    have hget : bytes.get! i = bytes.data.toList[i] := by
      show bytes.data[i]! = _
      rw [getElem!_pos bytes.data i hi, Array.getElem_toList]
    rw [ByteArray.toList.loop, if_pos hi, ih, hget, List.drop_eq_getElem_cons hl]
    simp
  | case2 i read hi =>
    have hl : bytes.data.toList.length ≤ i := by
      rw [Array.length_toList]; exact Nat.le_of_not_lt hi
    rw [ByteArray.toList.loop, if_neg hi, List.drop_eq_nil_of_le hl, List.append_nil]

theorem bytes_read (bytes : ByteArray) : bytes.toList = bytes.data.toList := by
  show ByteArray.toList.loop bytes 0 [] = _
  rw [bytes_read_from]; simp

theorem textBytes_inj {a b : String} (h : textBytes a = textBytes b) : a = b := by
  simp only [textBytes, bytes_read, String.toUTF8_eq_toByteArray] at h
  exact String.toByteArray_inj.mp (ByteArray.ext (Array.toList_inj.mp h))

/-! ## Lengths -/

theorem lowBytes_length (count n : Nat) : (lowBytes count n).length = count := by
  induction count generalizing n with
  | zero => rfl
  | succ count ih => simp only [lowBytes, List.length_cons, ih]

/-- The lowest bytes tell numbers that need no more bytes. -/
theorem lowBytes_inj {count m n : Nat} (hm : m < 256 ^ count) (hn : n < 256 ^ count)
    (h : lowBytes count m = lowBytes count n) : m = n := by
  induction count generalizing m n with
  | zero => simp only [Nat.pow_zero] at hm hn; omega
  | succ count ih =>
    simp only [lowBytes, List.cons.injEq] at h
    obtain ⟨hlow, hhigh⟩ := h
    rw [Nat.pow_succ] at hm hn
    have hdiv : m / 256 = n / 256 := ih (by omega) (by omega) hhigh
    have hmod : m % 256 = n % 256 := by
      have := congrArg UInt8.toNat hlow
      rwa [UInt8.toNat_ofNat', UInt8.toNat_ofNat'] at this
    omega

/-! ## Fields -/

/-- The length of a text fits into the bytes that are kept for it. -/
def Fits (text : String) : Prop := (textBytes text).length < 2 ^ 64

instance (text : String) : Decidable (Fits text) := by unfold Fits; exact inferInstance

theorem fieldBytes_ne_nil (text : String) : fieldBytes text ≠ [] := by
  intro h
  have := congrArg List.length h
  simp only [fieldBytes, List.length_append, lowBytes_length, List.length_nil] at this
  omega

/-- Reading a field leaves exactly what was written behind it. -/
theorem fieldBytes_append_inj {a b : String} {s t : List UInt8} (ha : Fits a) (hb : Fits b)
    (h : fieldBytes a ++ s = fieldBytes b ++ t) : a = b ∧ s = t := by
  simp only [fieldBytes, List.append_assoc] at h
  obtain ⟨hlen, hrest⟩ := List.append_inj h (by rw [lowBytes_length, lowBytes_length])
  have hsize : (textBytes a).length = (textBytes b).length :=
    lowBytes_inj (by simpa [Fits] using ha) (by simpa [Fits] using hb) hlen
  obtain ⟨htext, hst⟩ := List.append_inj hrest hsize
  exact ⟨textBytes_inj htext, hst⟩

theorem flatMap_fieldBytes_inj {xs ys : List String} (hx : ∀ x ∈ xs, Fits x)
    (hy : ∀ y ∈ ys, Fits y) (h : xs.flatMap fieldBytes = ys.flatMap fieldBytes) : xs = ys := by
  induction xs generalizing ys with
  | nil =>
    cases ys with
    | nil => rfl
    | cons y ys =>
      simp only [List.flatMap_nil, List.flatMap_cons, List.nil_eq, List.append_eq_nil_iff] at h
      exact absurd h.1 (fieldBytes_ne_nil y)
  | cons x xs ih =>
    cases ys with
    | nil =>
      simp only [List.flatMap_nil, List.flatMap_cons, List.append_eq_nil_iff] at h
      exact absurd h.1 (fieldBytes_ne_nil x)
    | cons y ys =>
      simp only [List.flatMap_cons] at h
      simp only [List.forall_mem_cons] at hx hy
      obtain ⟨rfl, hrest⟩ := fieldBytes_append_inj hx.1 hy.1 h
      rw [ih hx.2 hy.2 hrest]

/-! ## Functions -/

/-- What tells the functions of a module apart. -/
structure FunctionKey where
  name : String
  parameters : List String
  /-- The type of the answer, empty if there is none. -/
  answer : String
  method : Method
  path : String
deriving DecidableEq

namespace ClientFunction

def key (function : ClientFunction) : FunctionKey :=
  { name := function.name
    parameters := function.signature
    answer := function.reply.model.getD ""
    method := function.method
    path := function.path }

/-- Every text of the identity of a function fits behind its length. -/
def Addressable (function : ClientFunction) : Prop := ∀ text ∈ function.identityFields, Fits text

instance (function : ClientFunction) : Decidable function.Addressable := by
  unfold Addressable; exact inferInstance

theorem identityFields_of_identity {f g : ClientFunction} (hf : f.Addressable)
    (hg : g.Addressable) (h : f.identity = g.identity) : f.identityFields = g.identityFields :=
  flatMap_fieldBytes_inj hf hg h

/-- The list of fields can be taken apart again although the parameters are any number. -/
theorem eq_fields_of_identityFields {f g : ClientFunction}
    (h : f.identityFields = g.identityFields) :
    f.name = g.name ∧ f.signature = g.signature ∧
      f.reply.model.getD "" = g.reply.model.getD "" ∧ f.method = g.method ∧ f.path = g.path := by
  simp only [identityFields, List.cons.injEq] at h
  obtain ⟨hname, hrest⟩ := h
  obtain ⟨hsignature, hlast⟩ := List.append_inj' hrest rfl
  simp only [List.cons.injEq, and_true] at hlast
  obtain ⟨hmodel, htoken, hpath⟩ := hlast
  exact ⟨hname, hsignature, hmodel, Method.eq_of_token htoken, hpath⟩

theorem eq_fields_of_identity {f g : ClientFunction} (hf : f.Addressable) (hg : g.Addressable)
    (h : f.identity = g.identity) :
    f.name = g.name ∧ f.signature = g.signature ∧
      f.reply.model.getD "" = g.reply.model.getD "" ∧ f.method = g.method ∧ f.path = g.path :=
  eq_fields_of_identityFields (identityFields_of_identity hf hg h)

/-- Nothing else of a function shows in its identity. -/
theorem identity_eq_of_fields {f g : ClientFunction} (hname : f.name = g.name)
    (hsignature : f.signature = g.signature)
    (hanswer : f.reply.model.getD "" = g.reply.model.getD "")
    (htoken : f.method.token = g.method.token) (hpath : f.path = g.path) :
    f.identity = g.identity := by
  unfold identity identityFields
  rw [hname, hsignature, hanswer, htoken, hpath]

theorem identity_eq_iff {f g : ClientFunction} (hf : f.Addressable) (hg : g.Addressable) :
    f.identity = g.identity ↔ f.key = g.key := by
  unfold key
  simp only [FunctionKey.mk.injEq]
  constructor
  · exact eq_fields_of_identity hf hg
  · rintro ⟨hname, hsignature, hanswer, hmethod, hpath⟩
    exact identity_eq_of_fields hname hsignature hanswer (congrArg Method.token hmethod) hpath

/-- The identity of a function tells its name, its parameters, the type of its answer, its method
and its path, and nothing else. Different fields never give one identity, even if they are the same
text when they are put together, and neither do different numbers of parameters. -/
theorem identity_tells_fields {f g : ClientFunction} (hf : f.Addressable) (hg : g.Addressable) :
    (f.identity = g.identity ↔
      f.name = g.name ∧ f.signature = g.signature ∧
        f.reply.model.getD "" = g.reply.model.getD "" ∧
        f.method.token = g.method.token ∧ f.path = g.path) ∧
      (f.identityFields ≠ g.identityFields → f.identity ≠ g.identity) ∧
      (f.signature.length ≠ g.signature.length → f.identity ≠ g.identity) := by
  refine ⟨⟨fun h => ?_, ?_⟩, fun hfields h => ?_, fun hlength h => ?_⟩
  · obtain ⟨hname, hsignature, hanswer, hmethod, hpath⟩ := eq_fields_of_identity hf hg h
    exact ⟨hname, hsignature, hanswer, congrArg Method.token hmethod, hpath⟩
  · rintro ⟨hname, hsignature, hanswer, htoken, hpath⟩
    exact identity_eq_of_fields hname hsignature hanswer htoken hpath
  · exact hfields (identityFields_of_identity hf hg h)
  · obtain ⟨-, hsignature, -⟩ := eq_fields_of_identity hf hg h
    exact hlength (congrArg List.length hsignature)

/-- A function that only reads, with parameters of the given names. -/
def reader (name : String) (idents : List String) : ClientFunction :=
  { name := name
    method := .get
    path := "/pets/list"
    description := none
    arguments := idents.map fun ident => ⟨ident, ident, .query, "string", none⟩
    payload := none
    reply := ⟨none, none, none, .nothing, false, false⟩ }

/-- The same text in all, cut into fields in two ways; the last parameter begins like a length. -/
theorem identity_tells_fields_joined :
    let f := reader "list" ["a", "\x01\x00\x00\x00\x00\x00\x00\x00b"]
    let g := reader "lista" ["\x01\x00\x00\x00\x00\x00\x00\x00b"]
    f.Addressable ∧ g.Addressable ∧
      String.join f.identityFields = String.join g.identityFields ∧ f.identity ≠ g.identity := by
  intro f g
  have hf : f.Addressable := by decide +kernel
  have hg : g.Addressable := by decide +kernel
  exact ⟨hf, hg, by decide +kernel, (identity_tells_fields hf hg).2.2 (by decide)⟩

end ClientFunction

end Client

end OpenApiClient
