import HttpRequestClient.Lib.Parts
import HttpRequestClient.Types
import Mathlib.Data.List.DropRight

/-!
# Requests as RFC 9112 defines them

The abstract side of an HTTP/1.1 request: what its bytes mean to a server,
without the functions of the client.

* `parseRequest` reads a request: the request line, the field lines up to the
  first empty line, and the body.  A line ends with a carriage return and a
  line feed, and a field line is cut at its first colon.  Blanks around a value
  are no part of it.
* `RequestMessage.wire` writes one.

A message is read back from what is written when it is plain
(`parseRequest_wire`), and no other message is ever read
(`parseRequest_plain`).
-/

namespace HttpRequestClient.Rfc9112

open Parts

/-! ## Messages -/

structure RequestMessage where
  method : Bytes
  target : Bytes
  fields : List HeaderField
  body : Bytes
  deriving Repr, DecidableEq

def version : Bytes := ascii "HTTP/1.1"

def requestLine (method target : Bytes) : Bytes := method ++ 32 :: (target ++ 32 :: version)

def fieldLine (field : HeaderField) : Bytes := field.name ++ 58 :: 32 :: field.value

/-- A line on the wire. -/
def line (text : Bytes) : Bytes := text ++ [13, 10]

def fieldsWire (fields : List HeaderField) : Bytes :=
  fields.flatMap (fun field => line (fieldLine field))

def RequestMessage.wire (message : RequestMessage) : Bytes :=
  line (requestLine message.method message.target) ++
    (fieldsWire message.fields ++ (line [] ++ message.body))

/-! ## Reading -/

/-- The method and the target between single spaces. -/
def parseRequestLine (text : Bytes) : Option (Bytes × Bytes) :=
  match cut 32 text with
  | none => none
  | some (method, rest) =>
    match cut 32 rest with
    | none => none
    | some (target, rest) => if rest = version then some (method, target) else none

def isBlank (c : UInt8) : Bool := c = 32 ∨ c = 9

/-- Blanks removed at both ends. -/
def stripBlanks (s : Bytes) : Bytes := (s.dropWhile isBlank).rdropWhile isBlank

def parseFieldLine (text : Bytes) : Option HeaderField :=
  (cut 58 text).map (fun p => ⟨p.1, stripBlanks p.2⟩)

/-- A text without a line end. -/
abbrev OneLine (text : Bytes) : Prop := NoPair 13 10 text

theorem length_of_cutPair {s text after : Bytes} (h : cutPair 13 10 s = some (text, after)) :
    after.length < s.length := by
  rw [(cutPair_eq_some h).2]
  simp only [List.length_append, List.length_cons]
  omega

/-- The fields before the first empty line, and what follows it. -/
def parseFields (bytes : Bytes) : Option (List HeaderField × Bytes) :=
  match _h : cutPair 13 10 bytes with
  | none => none
  | some (text, rest) =>
    if text = [] then some ([], rest)
    else
      match parseFieldLine text with
      | none => none
      | some field => (parseFields rest).map (fun p => (field :: p.1, p.2))
termination_by bytes.length
decreasing_by exact length_of_cutPair ‹_›

def parseRequest (bytes : Bytes) : Option RequestMessage :=
  match cutPair 13 10 bytes with
  | none => none
  | some (text, rest) =>
    match parseRequestLine text, parseFields rest with
    | some (method, target), some (fields, body) => some ⟨method, target, fields, body⟩
    | _, _ => none

/-! ## The messages that are read back -/

/-- A name that ends at the first colon, a value without blanks around it, and
no line end in either. -/
structure PlainField (field : HeaderField) : Prop where
  colon : 58 ∉ field.name
  name : OneLine field.name
  value : OneLine field.value
  blanks : stripBlanks field.value = field.value

/-- A part of the request line. -/
structure PlainWord (word : Bytes) : Prop where
  space : 32 ∉ word
  oneLine : OneLine word

structure Plain (message : RequestMessage) : Prop where
  method : PlainWord message.method
  target : PlainWord message.target
  fields : ∀ field ∈ message.fields, PlainField field

instance (field : HeaderField) : Decidable (PlainField field) :=
  decidable_of_iff
    (58 ∉ field.name ∧ OneLine field.name ∧ OneLine field.value ∧
      stripBlanks field.value = field.value)
    ⟨fun h => ⟨h.1, h.2.1, h.2.2.1, h.2.2.2⟩, fun h => ⟨h.1, h.2, h.3, h.4⟩⟩

instance (word : Bytes) : Decidable (PlainWord word) :=
  decidable_of_iff (32 ∉ word ∧ OneLine word) ⟨fun h => ⟨h.1, h.2⟩, fun h => ⟨h.1, h.2⟩⟩

instance (message : RequestMessage) : Decidable (Plain message) :=
  decidable_of_iff
    (PlainWord message.method ∧ PlainWord message.target ∧
      ∀ field ∈ message.fields, PlainField field)
    ⟨fun h => ⟨h.1, h.2.1, h.2.2⟩, fun h => ⟨h.1, h.2, h.3⟩⟩

/-! ### Blanks -/

theorem stripBlanks_cons (s : Bytes) : stripBlanks (32 :: s) = stripBlanks s := by
  rw [stripBlanks, List.dropWhile_cons_of_pos (by decide)]
  rfl

/-- What is left starts and ends with no blank. -/
theorem stripBlanks_stripBlanks (s : Bytes) : stripBlanks (stripBlanks s) = stripBlanks s := by
  have hfront : (stripBlanks s).dropWhile isBlank = stripBlanks s := by
    obtain ⟨tail, htail⟩ : stripBlanks s <+: s.dropWhile isBlank := List.rdropWhile_prefix _ _
    cases hs : stripBlanks s with
    | nil => rfl
    | cons c rest =>
      have hfirst := List.head?_dropWhile_not isBlank s
      rw [← htail, hs, List.cons_append, List.head?_cons] at hfirst
      exact List.dropWhile_cons_of_neg (by simp [hfirst])
  rw [stripBlanks, hfront, stripBlanks]
  exact List.rdropWhile_idempotent _ _

/-! ### Lines -/

theorem oneLine_requestLine {method target : Bytes} (hmethod : PlainWord method)
    (htarget : PlainWord target) : OneLine (requestLine method target) := by
  have hversion : OneLine version := by decide
  exact hmethod.oneLine.middle (htarget.oneLine.middle hversion (by decide) (by decide))
    (by decide) (by decide)

theorem oneLine_fieldLine {field : HeaderField} (h : PlainField field) :
    OneLine (fieldLine field) := by
  have hnil : OneLine [] := List.IsChain.nil
  exact h.name.middle (hnil.middle h.value (by decide) (by decide)) (by decide) (by decide)

theorem cutPair_line {text : Bytes} (h : OneLine text) (rest : Bytes) :
    cutPair 13 10 (line text ++ rest) = some (text, rest) := by
  have heq : line text ++ rest = text ++ 13 :: 10 :: rest := by simp [line]
  rw [heq, cutPair_append (by decide) h]

theorem parseRequestLine_requestLine {method target : Bytes} (hmethod : 32 ∉ method)
    (htarget : 32 ∉ target) :
    parseRequestLine (requestLine method target) = some (method, target) := by
  rw [parseRequestLine, requestLine, cut_append hmethod]
  simp only
  rw [cut_append htarget]
  simp only [if_true]

theorem parseRequestLine_some {text method target : Bytes}
    (h : parseRequestLine text = some (method, target)) :
    32 ∉ method ∧ 32 ∉ target ∧ text = requestLine method target := by
  rw [parseRequestLine] at h
  cases hfirst : cut 32 text with
  | none => rw [hfirst] at h; cases h
  | some p =>
    rw [hfirst] at h
    cases hsecond : cut 32 p.2 with
    | none => simp only [hsecond] at h; cases h
    | some q =>
      simp only [hsecond] at h
      split at h
      · rename_i hversion
        cases h
        obtain ⟨hmethod, htext⟩ := cut_eq_some_iff.mp hfirst
        obtain ⟨htarget, hrest⟩ := cut_eq_some_iff.mp hsecond
        exact ⟨hmethod, htarget, by rw [htext, hrest, hversion, requestLine]⟩
      · cases h

theorem parseFieldLine_fieldLine {field : HeaderField} (h : PlainField field) :
    parseFieldLine (fieldLine field) = some field := by
  rw [parseFieldLine, fieldLine, cut_append h.colon, Option.map_some, stripBlanks_cons, h.blanks]

/-- A field that is read is plain. -/
theorem parseFieldLine_some {text : Bytes} {field : HeaderField} (htext : OneLine text)
    (h : parseFieldLine text = some field) : PlainField field := by
  obtain ⟨⟨name, rest⟩, hcut, rfl⟩ := Option.map_eq_some_iff.mp h
  obtain ⟨hcolon, rfl⟩ := cut_eq_some_iff.mp hcut
  have hrest : OneLine rest := List.IsChain.tail (List.IsChain.right_of_append htext)
  obtain ⟨front, hfront⟩ : rest.dropWhile isBlank <:+ rest := List.dropWhile_suffix _
  obtain ⟨back, hback⟩ : stripBlanks rest <+: rest.dropWhile isBlank := List.rdropWhile_prefix _ _
  refine ⟨hcolon, List.IsChain.left_of_append htext, ?_, stripBlanks_stripBlanks rest⟩
  rw [← hfront, ← hback] at hrest
  exact List.IsChain.left_of_append (List.IsChain.right_of_append hrest)

/-! ### Messages -/

theorem parseFields_of_cutPair {bytes text rest : Bytes}
    (h : cutPair 13 10 bytes = some (text, rest)) :
    parseFields bytes =
      if text = [] then some ([], rest)
      else
        match parseFieldLine text with
        | none => none
        | some field => (parseFields rest).map (fun p => (field :: p.1, p.2)) := by
  rw [parseFields]
  split
  · rename_i hnone
    rw [h] at hnone
    cases hnone
  · rename_i hsome
    rw [h] at hsome
    cases hsome
    rfl

theorem parseFields_wire {fields : List HeaderField} (h : ∀ field ∈ fields, PlainField field)
    (body : Bytes) :
    parseFields (fieldsWire fields ++ (line [] ++ body)) = some (fields, body) := by
  induction fields with
  | nil =>
    have hnil : OneLine [] := List.IsChain.nil
    rw [fieldsWire, List.flatMap_nil, List.nil_append, parseFields_of_cutPair (cutPair_line hnil body),
      if_pos rfl]
  | cons field fields ih =>
    have hfield : PlainField field := h field List.mem_cons_self
    have hne : fieldLine field ≠ [] := by simp [fieldLine]
    have hwire : fieldsWire (field :: fields) ++ (line [] ++ body) =
        line (fieldLine field) ++ (fieldsWire fields ++ (line [] ++ body)) := by
      rw [fieldsWire, List.flatMap_cons, List.append_assoc]
      rfl
    rw [hwire, parseFields_of_cutPair (cutPair_line (oneLine_fieldLine hfield) _), if_neg hne,
      parseFieldLine_fieldLine hfield]
    simp only
    rw [ih (fun later hlater => h later (List.mem_cons_of_mem _ hlater)), Option.map_some]

/-- All fields that are read are plain. -/
theorem parseFields_plain {bytes body : Bytes} {fields : List HeaderField}
    (h : parseFields bytes = some (fields, body)) : ∀ field ∈ fields, PlainField field := by
  fun_induction parseFields bytes generalizing fields with
  | case1 => cases h
  | case2 bytes rest hcut => cases h; intro field hmem; cases hmem
  | case3 => cases h
  | case4 bytes text rest hcut hne field hfield ih =>
    obtain ⟨⟨later, body'⟩, hlater, heq⟩ := Option.map_eq_some_iff.mp h
    cases heq
    intro other hmem
    rcases List.mem_cons.mp hmem with rfl | hmem
    · exact parseFieldLine_some (cutPair_eq_some hcut).1 hfield
    · exact ih hlater other hmem

/-- A plain message is read back. -/
theorem parseRequest_wire {message : RequestMessage} (h : Plain message) :
    parseRequest message.wire = some message := by
  rw [parseRequest, RequestMessage.wire, cutPair_line (oneLine_requestLine h.method h.target)]
  simp only
  rw [parseRequestLine_requestLine h.method.space h.target.space, parseFields_wire h.fields]

/-- A message that is read is plain, whatever it was read from. -/
theorem parseRequest_plain {bytes : Bytes} {message : RequestMessage}
    (h : parseRequest bytes = some message) : Plain message := by
  rw [parseRequest] at h
  cases hcut : cutPair 13 10 bytes with
  | none => rw [hcut] at h; cases h
  | some p =>
    obtain ⟨text, rest⟩ := p
    simp only [hcut] at h
    split at h
    · rename_i method target fields body hline hfields
      cases h
      obtain ⟨hmethod, htarget, rfl⟩ := parseRequestLine_some hline
      have htext : OneLine (requestLine method target) := (cutPair_eq_some hcut).1
      have hrest : OneLine (target ++ 32 :: version) :=
        List.IsChain.tail (List.IsChain.right_of_append htext)
      exact ⟨⟨hmethod, List.IsChain.left_of_append htext⟩,
        ⟨htarget, List.IsChain.left_of_append hrest⟩, parseFields_plain hfields⟩
    · cases h

end HttpRequestClient.Rfc9112
