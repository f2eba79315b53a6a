import HttpRequestClient.BasketHeaders
import HttpRequestClient.Lib.Passes

/-!
# The order of the request headers

`reorderHeadersByOrderKey` of `Basket.c`: the caller gives the order of the
headers in an `X-HeaderOrderKey` header, a list of names between commas.  The
function is called on a basket without an error.

The loops mark in `matched` what they have placed.  They are the passes of
`Passes.passes`, with the names of the list as tests and `connection` as the
last one.

* `reorderHeadersByOrderKey_spec`: the function reports a header that the list
  does not name, or leaves the headers in the order of the list.
-/

namespace HttpRequestClient

open Hpack Passes

def ERR_REQUEST_HEADER_ORDER_KEY_MISSING_HEADER : Error :=
  ⟨"2-0017", "A request header is not listed in the X-HeaderOrderKey ordered list."⟩

/-! ## The source -/

def headerNameEquals (a b : Bytes) : Bool := strcasecmp a b = 0

/-- The header that carries the order. -/
def isOrderKey (h : RequestHeader) : Bool :=
  !h.isPseudo && headerNameEquals h.name (ascii "X-HeaderOrderKey")

def isConnection (h : RequestHeader) : Bool := headerNameEquals h.name (ascii "connection")

/-- An item of the list without the blanks around it, unless nothing is left. -/
def keepKey (item : Bytes) : List Bytes :=
  let key := (item.dropWhile isspace).rdropWhile isspace
  if key.length > 0 then [key] else []

/-- The loop over the list.  `item` is the text since `start`. -/
def splitKeys (item : Bytes) : Bytes → List Bytes
  | [] => keepKey item
  | c :: raw => if c = 44 then keepKey item ++ splitKeys [] raw else splitKeys (item ++ [c]) raw

/-- Some key names the header. -/
def isListed (keys : List Bytes) (h : RequestHeader) : Bool :=
  keys.any fun key => headerNameEquals h.name key

/-- Some header is not in the list and has to be. -/
def isHeaderMissing (headers : List RequestHeader) (orderIdx : Nat) (keys : List Bytes) : Bool :=
  headers.zipIdx.any fun (h, i) =>
    !(h.isPseudo || i = orderIdx || isConnection h) && !isListed keys h

/-- The new array, and which headers are in it. -/
structure Placed where
  ordered : List RequestHeader
  matched : Nat → Bool

/-- One round of a loop that places the headers that a test holds of. -/
def placeHeader (orderIdx : Nat) (test : RequestHeader → Bool) (placed : Placed)
    (item : RequestHeader × Nat) : Placed :=
  let (h, i) := item
  if h.isPseudo || i = orderIdx || placed.matched i then placed
  else if test h then
    { ordered := placed.ordered ++ [h]
      matched := fun j => if j = i then true else placed.matched j }
  else placed

def placeHeaders (headers : List RequestHeader) (orderIdx : Nat) (placed : Placed)
    (test : RequestHeader → Bool) : Placed :=
  headers.zipIdx.foldl (placeHeader orderIdx test) placed

/-- The error that is set, and the headers behind the call. -/
def reorderHeadersByOrderKey (headers : List RequestHeader) :
    Option Error × List RequestHeader :=
  if headers.length = 0 then (none, headers)
  else
    match headers.findIdx? isOrderKey with
    | none => (none, headers)
    | some orderIdx =>
      let raw := ((headers[orderIdx]?).map RequestHeader.value).getD []
      let keys := splitKeys [] raw
      if isHeaderMissing headers orderIdx keys then
        (some ERR_REQUEST_HEADER_ORDER_KEY_MISSING_HEADER, headers)
      else
        let placed : Placed :=
          { ordered := headers.filter fun h => h.isPseudo, matched := fun _ => false }
        let placed := keys.foldl (fun placed key =>
          placeHeaders headers orderIdx placed fun h => headerNameEquals h.name key) placed
        let placed := placeHeaders headers orderIdx placed isConnection
        (none, placed.ordered)

/-! ## What is asked for -/

/-- The names of the list: the items between commas, without the blanks around
them, unless nothing is left. -/
def namedKeys (raw : Bytes) : List Bytes :=
  ((raw.splitOn 44).map fun item => (item.dropWhile isspace).rdropWhile isspace).filter (· ≠ [])

/-- The place of the first name of the list that a header has, the length of the
list when there is none. -/
def keyPosition (keys : List Bytes) (h : RequestHeader) : Nat :=
  keys.findIdx fun key => headerNameEquals h.name key

/-- A header that the list must name. -/
def Unnamed (keys : List Bytes) (h : RequestHeader) : Prop :=
  h.isPseudo = false ∧ isConnection h = false ∧ isListed keys h = false

/-- The headers `rest` in the order of the list: the pseudo headers, the named
ones by the first name, those of one name in their order, and the others. -/
structure OrderedBy (keys : List Bytes) (rest out : List RequestHeader) : Prop where
  perm : out.Perm rest
  parts : ∃ named, out = rest.filter (fun h => h.isPseudo) ++ named ++
      rest.filter (fun h => !h.isPseudo && !isListed keys h) ∧
    (∀ h ∈ named, h.isPseudo = false ∧ isListed keys h = true) ∧
    (named.Pairwise fun a b => keyPosition keys a ≤ keyPosition keys b) ∧
    ∀ r < keys.length, named.filter (fun h => keyPosition keys h = r) =
      rest.filter fun h => !h.isPseudo && keyPosition keys h = r

/-! ## The keys -/

theorem splitKeys_eq {item : Bytes} (h : 44 ∉ item) (raw : Bytes) :
    splitKeys item raw = ((item ++ raw).splitOn 44).flatMap keepKey := by
  induction raw generalizing item with
  | nil => rw [splitKeys, List.append_nil, List.splitOn_eq_singleton h, List.flatMap_singleton]
  | cons c raw ih =>
    rw [splitKeys]
    split
    · rename_i hc
      rw [hc, List.splitOn_append_cons_self_of_not_mem h, ih List.not_mem_nil]
      rfl
    · rename_i hc
      have hmem : 44 ∉ item ++ [c] := by
        rw [List.mem_append, List.mem_singleton, not_or]
        exact ⟨h, fun heq => hc heq.symm⟩
      rw [ih hmem, List.append_assoc]
      rfl

theorem splitKeys_nil (raw : Bytes) : splitKeys [] raw = namedKeys raw := by
  rw [splitKeys_eq List.not_mem_nil, List.nil_append, namedKeys]
  generalize raw.splitOn 44 = items
  induction items with
  | nil => rfl
  | cons item items ih =>
    rw [List.flatMap_cons, ih, keepKey, List.map_cons, List.filter_cons]
    by_cases hnil : (item.dropWhile isspace).rdropWhile isspace = []
    · simp [hnil]
    · have hlength := List.length_pos_iff.mpr hnil
      simp [hnil, hlength]

/-! ## The loops are passes -/

/-- A header that the loops place: a real one, and not the one with the order. -/
def isFree (orderIdx : Nat) (item : RequestHeader × Nat) : Bool :=
  !item.1.isPseudo && item.2 ≠ orderIdx

/-- The header is placed by a loop with the test. -/
def isPlacedBy (orderIdx : Nat) (test : RequestHeader → Bool) (item : RequestHeader × Nat) :
    Bool :=
  isFree orderIdx item && test item.1

theorem placeHeader_spec (orderIdx : Nat) (test : RequestHeader → Bool) (placed : Placed)
    (item : RequestHeader × Nat) :
    placeHeader orderIdx test placed item =
      ⟨placed.ordered ++ (if !placed.matched item.2 && isPlacedBy orderIdx test item then [item.1]
          else []),
        fun j => placed.matched j || (j = item.2 && isPlacedBy orderIdx test item)⟩ := by
  obtain ⟨h, i⟩ := item
  obtain ⟨ordered, matched⟩ := placed
  rw [placeHeader]
  dsimp only
  by_cases hmatched : matched i = true
  · have hsame : (fun j => matched j || (j = i && isPlacedBy orderIdx test (h, i))) = matched := by
      funext j
      by_cases hj : j = i
      · simp [hj, hmatched]
      · simp [hj]
    rw [hsame, if_pos (by simp [hmatched])]
    simp [hmatched]
  · have hfresh : matched i = false := by simpa using hmatched
    by_cases hplaced : isPlacedBy orderIdx test (h, i) = true
    · simp only [isPlacedBy, isFree, Bool.and_eq_true, Bool.not_eq_true', decide_eq_true_eq]
        at hplaced
      obtain ⟨⟨hreal, hi⟩, htest⟩ := hplaced
      have hcurrent : isPlacedBy orderIdx test (h, i) = true := by
        simp [isPlacedBy, isFree, hreal, hi, htest]
      rw [if_neg (by simp [hreal, hi, hfresh]), if_pos htest]
      simp only [hcurrent, hfresh, Bool.not_false, Bool.and_self, if_true, Bool.and_true,
        Placed.mk.injEq, true_and]
      funext j
      by_cases hj : j = i <;> simp [hj]
    · have hnot : isPlacedBy orderIdx test (h, i) = false := by simpa using hplaced
      rw [hnot]
      simp only [Bool.and_false, Bool.or_false, Bool.false_eq_true, if_false, List.append_nil]
      split
      · rfl
      · rename_i hfree
        rw [if_neg]
        intro htest
        simp only [Bool.or_eq_true, decide_eq_true_eq, not_or, Bool.not_eq_true] at hfree
        simp [isPlacedBy, isFree, hfree.1.1, hfree.1.2, htest] at hnot

/-- One loop places the headers that the test holds of, unless they are placed
already. -/
theorem foldl_placeHeader {orderIdx : Nat} (test : RequestHeader → Bool)
    {items : List (RequestHeader × Nat)} (hnodup : (items.map Prod.snd).Nodup) (placed : Placed) :
    items.foldl (placeHeader orderIdx test) placed =
      ⟨placed.ordered ++ (items.filter fun item =>
          !placed.matched item.2 && isPlacedBy orderIdx test item).map Prod.fst,
        fun j => placed.matched j || items.any fun item =>
          j = item.2 && isPlacedBy orderIdx test item⟩ := by
  induction items generalizing placed with
  | nil => simp
  | cons item items ih =>
    rw [List.map_cons, List.nodup_cons] at hnodup
    rw [List.foldl_cons, ih hnodup.2, placeHeader_spec]
    have hlater : (items.filter fun other => !(placed.matched other.2 ||
          (other.2 = item.2 && isPlacedBy orderIdx test item)) &&
            isPlacedBy orderIdx test other) =
        items.filter fun other => !placed.matched other.2 && isPlacedBy orderIdx test other := by
      refine List.filter_congr fun other hother => ?_
      have hne : other.2 ≠ item.2 := fun heq =>
        hnodup.1 (heq ▸ List.mem_map_of_mem hother)
      simp [hne]
    rw [Placed.mk.injEq]
    constructor
    · simp only [hlater, List.append_assoc, List.filter_cons]
      split <;> simp
    · funext j
      simp only [List.any_cons, Bool.or_assoc]

/-- The headers that are left for the loops. -/
def leftOver (headers : List RequestHeader) (orderIdx : Nat) (placed : Placed) :
    List (RequestHeader × Nat) :=
  headers.zipIdx.filter fun item => !placed.matched item.2 && isFree orderIdx item

theorem placeHeaders_spec (headers : List RequestHeader) (orderIdx : Nat) (placed : Placed)
    (test : RequestHeader → Bool) :
    (placeHeaders headers orderIdx placed test).ordered =
        placed.ordered ++ ((leftOver headers orderIdx placed).filter fun item =>
          test item.1).map Prod.fst ∧
      leftOver headers orderIdx (placeHeaders headers orderIdx placed test) =
        (leftOver headers orderIdx placed).filter fun item => !test item.1 := by
  have hnodup : (headers.zipIdx.map Prod.snd).Nodup := by
    rw [List.zipIdx_map_snd]
    exact List.nodup_range'
  rw [placeHeaders, foldl_placeHeader test hnodup]
  constructor
  · dsimp only
    rw [leftOver, List.filter_filter]
    congr 2
    refine List.filter_congr fun item _ => ?_
    simp only [isPlacedBy]
    cases test item.1 <;> simp
  · rw [leftOver, leftOver, List.filter_filter]
    refine List.filter_congr fun item hitem => ?_
    -- among the headers an index is that of one only
    have hany : (headers.zipIdx.any fun other =>
        item.2 = other.2 && isPlacedBy orderIdx test other) = isPlacedBy orderIdx test item := by
      rw [Bool.eq_iff_iff, List.any_eq_true]
      constructor
      · rintro ⟨other, hother, htest⟩
        simp only [Bool.and_eq_true, decide_eq_true_eq] at htest
        have hsame : other = item := by
          have hget := List.mk_mem_zipIdx_iff_getElem?.mp hother
          rw [← htest.1, List.mk_mem_zipIdx_iff_getElem?.mp hitem, Option.some.injEq] at hget
          exact Prod.ext hget.symm htest.1.symm
        exact hsame ▸ htest.2
      · intro htest
        exact ⟨item, hitem, by simp [htest]⟩
    dsimp only
    rw [hany, isPlacedBy]
    cases placed.matched item.2 <;> cases isFree orderIdx item <;> cases test item.1 <;> rfl

/-- The loops are passes over the headers that are left. -/
theorem foldl_placeHeaders (headers : List RequestHeader) (orderIdx : Nat)
    (tests : List (RequestHeader → Bool)) (placed : Placed) :
    (tests.foldl (placeHeaders headers orderIdx) placed).ordered =
      placed.ordered ++ passes tests ((leftOver headers orderIdx placed).map Prod.fst) := by
  induction tests generalizing placed with
  | nil => simp [passes]
  | cons test tests ih =>
    obtain ⟨hordered, hleft⟩ := placeHeaders_spec headers orderIdx placed test
    have hmap (p : RequestHeader → Bool) (items : List (RequestHeader × Nat)) :
        (items.filter fun item => p item.1).map Prod.fst = (items.map Prod.fst).filter p := by
      rw [List.filter_map]
      rfl
    rw [List.foldl_cons, ih, hordered, hleft, passes, List.append_assoc, hmap test,
      hmap (fun h => !test h)]

/-! ## The headers without the one with the order -/

theorem filter_isFree {n : Nat} (headers : List RequestHeader) {k : Nat}
    (h : n < k ∨ k + headers.length ≤ n) :
    ((headers.zipIdx k).filter (isFree n)).map Prod.fst =
      headers.filter fun h => !h.isPseudo := by
  induction headers generalizing k with
  | nil => rfl
  | cons header headers ih =>
    have hne : k ≠ n := by
      simp only [List.length_cons] at h
      omega
    have hrest := ih (k := k + 1) (by simp only [List.length_cons] at h; omega)
    rw [List.zipIdx_cons, List.filter_cons, List.filter_cons, ← hrest]
    cases hpseudo : header.isPseudo <;> simp [isFree, hpseudo, hne]

theorem leftOver_start {before after : List RequestHeader} {key : RequestHeader}
    (ordered : List RequestHeader) :
    (leftOver (before ++ key :: after) before.length ⟨ordered, fun _ => false⟩).map Prod.fst =
      (before ++ after).filter fun h => !h.isPseudo := by
  have hall : leftOver (before ++ key :: after) before.length ⟨ordered, fun _ => false⟩ =
      (before ++ key :: after).zipIdx.filter (isFree before.length) := by
    simp [leftOver]
  have hkey : isFree before.length (key, before.length) = false := by simp [isFree]
  rw [hall, List.zipIdx_append, List.zipIdx_cons, List.filter_append,
    List.filter_cons_of_neg (by simp [hkey]), List.map_append, List.filter_append,
    filter_isFree before (Or.inr (by omega)), filter_isFree after (Or.inl (by omega))]

/-- What the list must name and does not is among the other headers. -/
theorem isHeaderMissing_iff {before after : List RequestHeader} {key : RequestHeader}
    (keys : List Bytes) :
    isHeaderMissing (before ++ key :: after) before.length keys = true ↔
      ∃ h ∈ before ++ after, Unnamed keys h := by
  have hfree : isHeaderMissing (before ++ key :: after) before.length keys =
      ((before ++ after).filter fun h => !h.isPseudo).any fun h =>
        !isConnection h && !isListed keys h := by
    rw [← leftOver_start [], leftOver, List.any_map, List.any_filter, isHeaderMissing]
    refine congrArg (fun test => (before ++ key :: after).zipIdx.any test) (funext fun item => ?_)
    obtain ⟨h, i⟩ := item
    simp only [isFree, Function.comp]
    cases h.isPseudo <;> by_cases hi : i = before.length <;> cases isConnection h <;>
      simp [hi]
  rw [hfree, List.any_eq_true]
  constructor
  · rintro ⟨h, hmem, htest⟩
    obtain ⟨hin, hreal⟩ := List.mem_filter.mp hmem
    simp only [Bool.and_eq_true, Bool.not_eq_true'] at htest hreal
    exact ⟨h, hin, hreal, htest.1, htest.2⟩
  · rintro ⟨h, hin, hreal, hconnection, hlisted⟩
    exact ⟨h, List.mem_filter.mpr ⟨hin, by simp [hreal]⟩, by simp [hconnection, hlisted]⟩

/-! ## The order -/

/-- The tests of the loops: the names of the list. -/
def keyTests (keys : List Bytes) : List (RequestHeader → Bool) :=
  keys.map fun key h => headerNameEquals h.name key

theorem taken_keyTests (keys : List Bytes) (h : RequestHeader) :
    taken (keyTests keys) h = isListed keys h := by
  rw [taken, keyTests, List.any_map]
  rfl

theorem rank_keyTests (keys : List Bytes) (h : RequestHeader) :
    rank (keyTests keys) h = keyPosition keys h := by
  rw [rank, keyTests, List.findIdx_map]
  rfl

/-- The headers that the loops place, when all that must be named are. -/
theorem orderedBy_passes {keys : List Bytes} {rest : List RequestHeader}
    (hnamed : ¬∃ h ∈ rest, Unnamed keys h) :
    OrderedBy keys rest (rest.filter (fun h => h.isPseudo) ++
      passes (keyTests keys ++ [isConnection]) (rest.filter fun h => !h.isPseudo)) := by
  have hlast : passes [isConnection] ((rest.filter fun h => !h.isPseudo).filter
      fun h => !taken (keyTests keys) h) =
        rest.filter fun h => !h.isPseudo && !isListed keys h := by
    rw [passes, passes, List.append_nil, List.filter_filter, List.filter_filter]
    refine List.filter_congr fun h hmem => ?_
    rw [taken_keyTests]
    cases hpseudo : h.isPseudo <;> cases hlisted : isListed keys h <;>
      cases hconnection : isConnection h <;> try rfl
    exact absurd ⟨h, hmem, hpseudo, hconnection, hlisted⟩ hnamed
  have hmem : ∀ h ∈ passes (keyTests keys) (rest.filter fun h => !h.isPseudo),
      h.isPseudo = false ∧ isListed keys h = true := by
    intro h hin
    obtain ⟨hreal, htaken⟩ := mem_passes.mp hin
    rw [taken_keyTests] at htaken
    exact ⟨by simpa using (List.mem_filter.mp hreal).2, htaken⟩
  rw [passes_append, hlast, ← List.append_assoc]
  refine ⟨?_, passes (keyTests keys) (rest.filter fun h => !h.isPseudo), rfl, hmem, ?_, ?_⟩
  · -- nothing is lost at any of the two divisions
    have hreal : (passes (keyTests keys) (rest.filter fun h => !h.isPseudo) ++
        rest.filter fun h => !h.isPseudo && !isListed keys h).Perm
          (rest.filter fun h => !h.isPseudo) := by
      have hperm := passes_perm (keyTests keys) (rest.filter fun h => !h.isPseudo)
      have hsplit := List.filter_append_perm (isListed keys) (rest.filter fun h => !h.isPseudo)
      have hlisted : (rest.filter fun h => !h.isPseudo).filter (taken (keyTests keys)) =
          (rest.filter fun h => !h.isPseudo).filter (isListed keys) :=
        List.filter_congr fun h _ => taken_keyTests keys h
      have hother : ((rest.filter fun h => !h.isPseudo).filter fun h => !isListed keys h) =
          rest.filter fun h => !h.isPseudo && !isListed keys h := by
        rw [List.filter_filter]
        exact List.filter_congr fun h _ => Bool.and_comm _ _
      rw [hlisted] at hperm
      rw [hother] at hsplit
      exact (hperm.append_right _).trans hsplit
    rw [List.append_assoc]
    exact (hreal.append_left _).trans (List.filter_append_perm (fun h => h.isPseudo) rest)
  · refine (passes_sorted (keyTests keys) _).imp fun {a b} hle => ?_
    rwa [rank_keyTests, rank_keyTests] at hle
  · intro r hr
    have hstable := filter_passes (keyTests keys) (rest.filter fun h => !h.isPseudo) (r := r)
      (by rw [keyTests, List.length_map]; exact hr)
    simp only [rank_keyTests] at hstable
    rw [hstable, List.filter_filter]
    exact List.filter_congr fun h _ => Bool.and_comm _ _

/-- The loops on the whole list. -/
theorem reorderHeadersByOrderKey_loops {before after : List RequestHeader} {key : RequestHeader}
    (hkey : isOrderKey key = true) (hbefore : ∀ h ∈ before, isOrderKey h = false) :
    reorderHeadersByOrderKey (before ++ key :: after) =
      if isHeaderMissing (before ++ key :: after) before.length (namedKeys key.value) then
        (some ERR_REQUEST_HEADER_ORDER_KEY_MISSING_HEADER, before ++ key :: after)
      else (none, (before ++ after).filter (fun h => h.isPseudo) ++
        passes (keyTests (namedKeys key.value) ++ [isConnection])
          ((before ++ after).filter fun h => !h.isPseudo)) := by
  have hindex : (before ++ key :: after).findIdx? isOrderKey = some before.length := by
    have hnone : before.findIdx? isOrderKey = none := List.findIdx?_eq_none_iff.mpr hbefore
    simp [List.findIdx?_append, hnone, List.findIdx?_cons, hkey]
  have hreal : key.isPseudo = false := by
    simp only [isOrderKey, Bool.and_eq_true, Bool.not_eq_true'] at hkey
    exact hkey.1
  have hpseudo : (before ++ key :: after).filter (fun h => h.isPseudo) =
      (before ++ after).filter fun h => h.isPseudo := by
    simp [hreal]
  have hloops (placed : Placed) : placeHeaders (before ++ key :: after) before.length
      ((namedKeys key.value).foldl (fun placed name =>
        placeHeaders (before ++ key :: after) before.length placed
          fun h => headerNameEquals h.name name) placed) isConnection =
      (keyTests (namedKeys key.value) ++ [isConnection]).foldl
        (placeHeaders (before ++ key :: after) before.length) placed := by
    rw [List.foldl_append, keyTests, List.foldl_map]
    rfl
  have hnotEmpty : ¬(before ++ key :: after).length = 0 := by simp
  rw [reorderHeadersByOrderKey, if_neg hnotEmpty, hindex]
  simp only [List.getElem?_append_right (Nat.le_refl _), Nat.sub_self, List.getElem?_cons_zero,
    Option.map_some, Option.getD_some, splitKeys_nil]
  split
  · rfl
  · rw [hloops, foldl_placeHeaders, leftOver_start, hpseudo]

/-- An unnamed header is reported, else the headers are put into order. -/
theorem reorderHeadersByOrderKey_split {before after : List RequestHeader} {key : RequestHeader}
    (hkey : isOrderKey key = true) (hbefore : ∀ h ∈ before, isOrderKey h = false) :
    (∃ h ∈ before ++ after, Unnamed (namedKeys key.value) h) ∧
        reorderHeadersByOrderKey (before ++ key :: after) =
          (some ERR_REQUEST_HEADER_ORDER_KEY_MISSING_HEADER, before ++ key :: after) ∨
      (¬∃ h ∈ before ++ after, Unnamed (namedKeys key.value) h) ∧
        ∃ out, reorderHeadersByOrderKey (before ++ key :: after) = (none, out) ∧
          OrderedBy (namedKeys key.value) (before ++ after) out := by
  rw [reorderHeadersByOrderKey_loops hkey hbefore]
  by_cases hmissing : ∃ h ∈ before ++ after, Unnamed (namedKeys key.value) h
  · rw [if_pos ((isHeaderMissing_iff _).mpr hmissing)]
    exact Or.inl ⟨hmissing, rfl⟩
  · rw [if_neg fun h => hmissing ((isHeaderMissing_iff _).mp h)]
    exact Or.inr ⟨hmissing, _, rfl, orderedBy_passes hmissing⟩

/-- The first order key. -/
theorem exists_orderKey {headers : List RequestHeader} (horder : headers.any isOrderKey = true) :
    ∃ before key after, headers = before ++ key :: after ∧ isOrderKey key = true ∧
      ∀ h ∈ before, isOrderKey h = false := by
  obtain ⟨key, hfind⟩ := Option.isSome_iff_exists.mp (List.find?_isSome.mpr
    (List.any_eq_true.mp horder))
  obtain ⟨hkey, before, after, rfl, hbefore⟩ := List.find?_eq_some_iff_append.mp hfind
  exact ⟨before, key, after, rfl, hkey, fun h hmem => by simpa using hbefore h hmem⟩

/-- With an order key the function reports a header that the list does not name
and leaves the headers, or drops the first order key and puts the others into the
order of its list. -/
theorem reorderHeadersByOrderKey_spec {headers : List RequestHeader}
    (horder : headers.any isOrderKey = true) :
    ∃ before key after, headers = before ++ key :: after ∧ isOrderKey key = true ∧
      (∀ h ∈ before, isOrderKey h = false) ∧
      ((∃ h ∈ before ++ after, Unnamed (namedKeys key.value) h) ∧
          reorderHeadersByOrderKey headers =
            (some ERR_REQUEST_HEADER_ORDER_KEY_MISSING_HEADER, headers) ∨
        (¬∃ h ∈ before ++ after, Unnamed (namedKeys key.value) h) ∧
          ∃ out, reorderHeadersByOrderKey headers = (none, out) ∧
            OrderedBy (namedKeys key.value) (before ++ after) out) := by
  obtain ⟨before, key, after, rfl, hkey, hbefore⟩ := exists_orderKey horder
  exact ⟨before, key, after, rfl, hkey, hbefore, reorderHeadersByOrderKey_split hkey hbefore⟩

/-- Two cookies and a user agent, and the order in which a browser sends them. -/
def browserHeaders : List RequestHeader :=
  [⟨ascii ":method", ascii "GET", true⟩, ⟨ascii "Cookie", ascii "a=1", false⟩,
    ⟨ascii "x-headerorderkey", ascii "user-agent, ,COOKIE", false⟩,
    ⟨ascii "connection", ascii "close", false⟩, ⟨ascii "cookie", ascii "b=2", false⟩,
    ⟨ascii "User-Agent", ascii "Chrome/152", false⟩]

example : (reorderHeadersByOrderKey browserHeaders).2.map RequestHeader.value =
    [ascii "GET", ascii "Chrome/152", ascii "a=1", ascii "b=2", ascii "close"] := by
  decide +kernel

theorem reorderHeadersByOrderKey_browser :
    ∃ before key after, browserHeaders = before ++ key :: after ∧ isOrderKey key = true ∧
      (∀ h ∈ before, isOrderKey h = false) ∧
      ((∃ h ∈ before ++ after, Unnamed (namedKeys key.value) h) ∧
          reorderHeadersByOrderKey browserHeaders =
            (some ERR_REQUEST_HEADER_ORDER_KEY_MISSING_HEADER, browserHeaders) ∨
        (¬∃ h ∈ before ++ after, Unnamed (namedKeys key.value) h) ∧
          ∃ out, reorderHeadersByOrderKey browserHeaders = (none, out) ∧
            OrderedBy (namedKeys key.value) (before ++ after) out) :=
  reorderHeadersByOrderKey_spec (by decide)

/-- Without an order key the headers stay. -/
theorem reorderHeadersByOrderKey_plain {headers : List RequestHeader}
    (h : headers.any isOrderKey = false) : reorderHeadersByOrderKey headers = (none, headers) := by
  have hnone : headers.findIdx? isOrderKey = none := by
    rw [List.findIdx?_eq_none_iff]
    simpa using h
  rw [reorderHeadersByOrderKey, hnone]
  split <;> rfl

/-- What the function makes of a list without reporting an error. -/
theorem reorderHeadersByOrderKey_cases {headers out : List RequestHeader}
    (h : reorderHeadersByOrderKey headers = (none, out)) :
    (headers.any isOrderKey = false ∧ out = headers) ∨
      ∃ before key after, headers = before ++ key :: after ∧ isOrderKey key = true ∧
        (¬∃ h ∈ before ++ after, Unnamed (namedKeys key.value) h) ∧
        OrderedBy (namedKeys key.value) (before ++ after) out := by
  cases horder : headers.any isOrderKey with
  | false =>
    rw [reorderHeadersByOrderKey_plain horder, Prod.mk.injEq] at h
    exact Or.inl ⟨rfl, h.2.symm⟩
  | true =>
    obtain ⟨before, key, after, rfl, hkey, hbefore⟩ := exists_orderKey horder
    rcases reorderHeadersByOrderKey_split hkey hbefore with
      ⟨-, hresult⟩ | ⟨hnamed, out', hresult, hordered⟩
    · rw [h] at hresult
      cases hresult
    · rw [h, Prod.mk.injEq] at hresult
      exact Or.inr ⟨before, key, after, rfl, hkey, hnamed, hresult.2 ▸ hordered⟩

/-- Only the header with the order is dropped. -/
theorem mem_reorderHeaders {headers out : List RequestHeader}
    (h : reorderHeadersByOrderKey headers = (none, out)) {header : RequestHeader}
    (hkey : isOrderKey header = false) : header ∈ out ↔ header ∈ headers := by
  rcases reorderHeadersByOrderKey_cases h with ⟨-, rfl⟩ |
    ⟨before, key, after, rfl, hkey', -, hordered⟩
  · rfl
  · have hne : header ≠ key := by
      rintro rfl
      rw [hkey] at hkey'
      cases hkey'
    rw [hordered.perm.mem_iff, List.mem_append, List.mem_append, List.mem_cons]
    simp [hne]

/-- The headers of one name keep their order. -/
theorem filter_reorderHeaders {headers out : List RequestHeader} {p : RequestHeader → Bool}
    (h : reorderHeadersByOrderKey headers = (none, out))
    (hreal : ∀ h, p h = true →
      h.isPseudo = false ∧ isOrderKey h = false ∧ isConnection h = false)
    (hname : ∀ a ∈ headers, p a = true → ∀ b ∈ headers, p b = true → a.name = b.name) :
    out.filter p = headers.filter p := by
  rcases reorderHeadersByOrderKey_cases h with ⟨-, rfl⟩ |
    ⟨before, key, after, rfl, hkey, hnamed, hordered⟩
  · rfl
  · have hdropped : (before ++ key :: after).filter p = (before ++ after).filter p := by
      have hp : ¬p key = true := fun hp => by
        rw [(hreal key hp).2.1] at hkey
        cases hkey
      rw [List.filter_append, List.filter_cons_of_neg hp, ← List.filter_append]
    have hsub : ∀ h ∈ before ++ after, h ∈ before ++ key :: after := by
      intro h hmem
      rw [List.mem_append] at hmem ⊢
      exact hmem.imp_right (List.mem_cons_of_mem _)
    rw [hdropped]
    by_cases hnone : (before ++ after).filter p = []
    · rw [hnone, ← List.perm_nil, ← hnone]
      exact hordered.perm.filter p
    · obtain ⟨a, ha⟩ := List.exists_mem_of_ne_nil _ hnone
      obtain ⟨hmem, hpa⟩ := List.mem_filter.mp ha
      -- all of them have the name of `a`, and so its place in the list
      have hplace : ∀ b ∈ before ++ after, p b = true →
          keyPosition (namedKeys key.value) b = keyPosition (namedKeys key.value) a ∧
            isListed (namedKeys key.value) b = true := by
        intro b hb hpb
        have hsame := hname b (hsub b hb) hpb a (hsub a hmem) hpa
        refine ⟨by rw [keyPosition, keyPosition, hsame], ?_⟩
        by_contra hlisted
        exact hnamed ⟨b, hb, (hreal b hpb).1, (hreal b hpb).2.2, by simpa using hlisted⟩
      have hlt : keyPosition (namedKeys key.value) a < (namedKeys key.value).length := by
        rw [keyPosition, List.findIdx_lt_length]
        exact List.any_eq_true.mp (hplace a hmem hpa).2
      obtain ⟨named, rfl, hlist, -, hstable⟩ := hordered.parts
      have hpseudo : ((before ++ after).filter fun h => h.isPseudo).filter p = [] := by
        rw [List.filter_filter, List.filter_eq_nil_iff]
        intro b _ hb
        rw [Bool.and_eq_true] at hb
        rw [(hreal b hb.1).1] at hb
        exact Bool.false_ne_true hb.2
      have hlast : ((before ++ after).filter fun h =>
          !h.isPseudo && !isListed (namedKeys key.value) h).filter p = [] := by
        rw [List.filter_filter, List.filter_eq_nil_iff]
        intro b hb htest
        rw [Bool.and_eq_true] at htest
        rw [(hplace b hb htest.1).2] at htest
        simp at htest
      rw [List.filter_append, List.filter_append, hpseudo, hlast, List.nil_append, List.append_nil]
      have hperm : ∀ b ∈ named, b ∈ before ++ after := fun b hb =>
        hordered.perm.mem_iff.mp (by simp [hb])
      calc named.filter p
          = (named.filter fun b => keyPosition (namedKeys key.value) b =
              keyPosition (namedKeys key.value) a).filter p := by
            rw [List.filter_filter]
            refine List.filter_congr fun b hb => ?_
            cases hpb : p b with
            | false => rfl
            | true => simp [(hplace b (hperm b hb) hpb).1]
        _ = ((before ++ after).filter fun b => !b.isPseudo &&
              keyPosition (namedKeys key.value) b =
                keyPosition (namedKeys key.value) a).filter p := by rw [hstable _ hlt]
        _ = (before ++ after).filter p := by
            rw [List.filter_filter]
            refine List.filter_congr fun b hb => ?_
            cases hpb : p b with
            | false => rfl
            | true => simp [(hplace b hb hpb).1, (hreal b hpb).1]

end HttpRequestClient
