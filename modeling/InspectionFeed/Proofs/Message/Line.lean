/-
Lines of service messages, read back: the line of a message whose name and
keys are words is read as that message, with its attributes in the order of
their keys (`decode?_line`). Such a line holds no end of line, so lines that
follow each other on a stream can be told apart.

The values are arbitrary. They are read by their quotes alone, so a value may
look like a key, a separator, an end or a whole message.
-/
import InspectionFeed.Proofs.Message.Glyph
import InspectionFeed.Proofs.Stream

namespace InspectionFeed

namespace Payload

/-- The values under keys, if there are any. -/
def pairs : Payload → List (String × String)
  | .value _ => []
  | .attributes pairs => pairs

/-- The same with its attributes in the order in which a line has them. -/
def sorted : Payload → Payload
  | .value text => .value text
  | .attributes pairs => .attributes (Message.sortPairs pairs)

end Payload

namespace Message

/-- A word of letters, digits and low lines. -/
def isWord (s : String) : Bool := s.toList.all isNameChar

/-- Name and keys are words, as those of all messages of a report are. -/
structure WellNamed (m : Message) : Prop where
  name : isWord m.name = true
  keys : ∀ p ∈ m.payload.pairs, isWord p.1 = true

/-- The message with its attributes in the order in which its line has them. -/
def sorted (m : Message) : Message := ⟨m.name, m.payload.sorted⟩

/-! ## Words -/

theorem isName_of_isWord {s : String} (h : isWord s = true) : isName s = true := by
  refine List.all_eq_true.2 fun c hc => ?_
  simp [isDelimiter_of_isNameChar (List.all_eq_true.1 h c hc)]

theorem takeWhile_isNameChar {s : String} (h : isWord s = true) {c : Char}
    (hc : isNameChar c = false) (rest : List Char) :
    (s.toList ++ c :: rest).takeWhile isNameChar = s.toList := by
  rw [List.takeWhile_append_of_pos (List.all_eq_true.1 h),
    List.takeWhile_cons_of_neg (by simp [hc]), List.append_nil]

theorem dropWhile_isNameChar {s : String} (h : isWord s = true) {c : Char}
    (hc : isNameChar c = false) (rest : List Char) :
    (s.toList ++ c :: rest).dropWhile isNameChar = c :: rest := by
  rw [List.dropWhile_append_of_pos (List.all_eq_true.1 h),
    List.dropWhile_cons_of_neg (by simp [hc])]

/-! ## Attributes -/

theorem toList_quotedValue (v : String) :
    (quotedValue v).toList = '\'' :: (escapeChars v.toList ++ ['\'']) := by
  simp [quotedValue, escape]

theorem toList_attributeText (k v : String) :
    (attributeText (k, v)).toList =
      ' ' :: (k.toList ++ '=' :: '\'' :: (escapeChars v.toList ++ ['\''])) := by
  simp [attributeText, toList_quotedValue]

theorem attributesFrom?_cons {k : String} (hk : isWord k = true) (v : String) (fuel : Nat)
    (rest : List Char) :
    attributesFrom? (fuel + 1) ((attributeText (k, v)).toList ++ rest) =
      (attributesFrom? fuel rest).map ((k, v) :: ·) := by
  have heq : isNameChar '=' = false := rfl
  simp only [toList_attributeText, List.cons_append, List.append_assoc, List.nil_append,
    attributesFrom?, dropWhile_isNameChar hk heq, takeWhile_isNameChar hk heq,
    valueAndRest?_escapeChars, String.ofList_toList]

theorem attributesFrom?_closing : ∀ {pairs : List (String × String)} {fuel : Nat},
    (∀ p ∈ pairs, isWord p.1 = true) → pairs.length < fuel →
    attributesFrom? fuel (pairs.flatMap (fun p => (attributeText p).toList) ++ [']']) = some pairs
  | [], fuel + 1, _, _ => rfl
  | (k, v) :: pairs, fuel + 1, hk, hl => by
    have hl' : pairs.length < fuel := by simpa using hl
    rw [List.flatMap_cons, List.append_assoc, attributesFrom?_cons (hk (k, v) (by simp)),
      attributesFrom?_closing (fun p hp => hk p (by simp [hp])) hl']
    rfl

/-! ## Payloads and lines -/

/-- Attributes are not taken for a single value: no key begins with a quote. -/
theorem payloadFrom?_of_attributes {pairs : List (String × String)}
    (hk : ∀ p ∈ pairs, isWord p.1 = true) {cs : List Char}
    (hcs : cs = pairs.flatMap (fun p => (attributeText p).toList) ++ [']']) :
    payloadFrom? cs = (attributesFrom? (cs.length + 1) cs).map .attributes := by
  unfold payloadFrom?
  split
  next rest =>
    exfalso
    cases pairs with
    | nil => simp at hcs
    | cons p pairs =>
      have hp : ∀ c ∈ p.1.toList, isNameChar c = true := List.all_eq_true.1 (hk p (by simp))
      rw [List.flatMap_cons, toList_attributeText] at hcs
      cases hkey : p.1.toList with
      | nil => simp [hkey] at hcs
      | cons c key =>
        have hc : isNameChar c = true := hp c (by simp [hkey])
        simp only [hkey, List.cons_append, List.cons.injEq, true_and] at hcs
        rw [← hcs.1] at hc
        cases hc
  next => rfl

theorem length_lt_of_attributes (pairs : List (String × String)) :
    pairs.length < (pairs.flatMap (fun p => (attributeText p).toList) ++ [']']).length + 1 := by
  induction pairs with
  | nil => simp
  | cons p pairs ih =>
    have hp : 0 < (attributeText p).toList.length := by rw [toList_attributeText]; simp
    simp only [List.flatMap_cons, List.length_cons, List.length_append] at ih ⊢
    omega

theorem toList_attributes (pairs : List (String × String)) :
    (payloadText (.attributes pairs)).toList =
      (sortPairs pairs).flatMap fun p => (attributeText p).toList := by
  simp only [payloadText, String.toList_join, List.flatMap_map]

theorem payloadFrom?_payloadText {p : Payload} (hk : ∀ pair ∈ p.pairs, isWord pair.1 = true) :
    payloadFrom? ((payloadText p).toList ++ [']']) = some p.sorted := by
  cases p with
  | value text =>
    simp [payloadText, toList_quotedValue, payloadFrom?, valueAndRest?_escapeChars, Payload.sorted]
  | attributes pairs =>
    have hk' : ∀ p ∈ sortPairs pairs, isWord p.1 = true := fun p hp =>
      hk p (List.mem_mergeSort.1 hp)
    rw [toList_attributes, payloadFrom?_of_attributes hk' rfl,
      attributesFrom?_closing hk' (length_lt_of_attributes _)]
    rfl

/-- What stands behind a message's name never goes on with the name. -/
theorem payloadText_closing_eq_cons (p : Payload) :
    ∃ c cs, (payloadText p).toList ++ [']'] = c :: cs ∧ isNameChar c = false := by
  cases p with
  | value text => exact ⟨' ', _, by simp [payloadText]; rfl, rfl⟩
  | attributes pairs =>
    rw [toList_attributes]
    cases sortPairs pairs with
    | nil => exact ⟨']', [], rfl, rfl⟩
    | cons p pairs =>
      rw [List.flatMap_cons, toList_attributeText]
      exact ⟨' ', _, rfl, rfl⟩

theorem toList_line (m : Message) : m.line.toList =
    opening.toList ++ (m.name.toList ++ ((payloadText m.payload).toList ++ [']'])) := by
  simp [line, closing]

/-- **The line of a message is read as the message**, with its attributes in the order of their
keys. -/
theorem decode?_line {m : Message} (h : m.WellNamed) : decode? m.line = some m.sorted := by
  obtain ⟨c, cs, hcs, hc⟩ := payloadText_closing_eq_cons m.payload
  have hpre : opening.toList.isPrefixOf? m.line.toList =
      some (m.name.toList ++ ((payloadText m.payload).toList ++ [']'])) :=
    List.isPrefixOf?_eq_some_iff_append_eq.2 (toList_line m).symm
  have hdrop : (m.name.toList ++ ((payloadText m.payload).toList ++ [']'])).dropWhile isNameChar =
      (payloadText m.payload).toList ++ [']'] := by
    rw [hcs, dropWhile_isNameChar h.name hc]
  have htake : (m.name.toList ++ ((payloadText m.payload).toList ++ [']'])).takeWhile isNameChar =
      m.name.toList := by
    rw [hcs, takeWhile_isNameChar h.name hc]
  simp only [decode?, hpre, hdrop, htake, payloadFrom?_payloadText h.keys, String.ofList_toList]
  rfl

/-! ## Ends of lines -/

/-- The text holds no end of line. -/
def isOneLine (s : String) : Bool := s.toList.all fun c => !isLineEnd c

theorem isOneLine_append (s t : String) : isOneLine (s ++ t) = (isOneLine s && isOneLine t) := by
  simp only [isOneLine, String.toList_append, List.all_append]

theorem isOneLine_join {ss : List String} (h : ∀ s ∈ ss, isOneLine s = true) :
    isOneLine (String.join ss) = true := by
  rw [isOneLine, String.toList_join, List.all_flatMap]
  exact List.all_eq_true.2 h

theorem isOneLine_of_isName {s : String} (h : isName s = true) : isOneLine s = true := by
  refine List.all_eq_true.2 fun c hc => ?_
  have hd := List.all_eq_true.1 h c hc
  cases he : isLineEnd c with
  | false => rfl
  | true =>
    simp only [isLineEnd, Bool.or_eq_true, beq_iff_eq] at he
    rcases he with rfl | rfl <;> cases hd

theorem isOneLine_quotedValue (v : String) : isOneLine (quotedValue v) = true := by
  have he : isOneLine (escape v) = true := List.all_eq_true.2 fun c hc => by
    simp [isLineEnd_of_mem_escapeChars (by simpa [escape] using hc)]
  have hq : isOneLine "'" = true := rfl
  rw [quotedValue, isOneLine_append, isOneLine_append, he, hq]
  rfl

theorem isOneLine_attributeText {k : String} (hk : isName k = true) (v : String) :
    isOneLine (attributeText (k, v)) = true := by
  have hs : isOneLine " " = true := rfl
  have he : isOneLine "=" = true := rfl
  simp only [attributeText, isOneLine_append, hs, he, isOneLine_of_isName hk,
    isOneLine_quotedValue, Bool.and_self]

theorem isOneLine_payloadText {p : Payload} (hk : ∀ pair ∈ p.pairs, isName pair.1 = true) :
    isOneLine (payloadText p) = true := by
  cases p with
  | value text =>
    have hs : isOneLine " " = true := rfl
    simp only [payloadText, isOneLine_append, hs, isOneLine_quotedValue, Bool.and_self]
  | attributes pairs =>
    refine isOneLine_join fun s hs => ?_
    obtain ⟨⟨k, v⟩, hp, rfl⟩ := List.mem_map.1 hs
    exact isOneLine_attributeText (hk (k, v) (List.mem_mergeSort.1 hp)) v

/-- The line of a message is one line. -/
theorem isOneLine_line {m : Message} (hn : isName m.name = true)
    (hk : ∀ p ∈ m.payload.pairs, isName p.1 = true) : isOneLine m.line = true := by
  have ho : isOneLine opening = true := rfl
  have hc : isOneLine closing = true := rfl
  simp only [line, isOneLine_append, ho, hc, isOneLine_of_isName hn, isOneLine_payloadText hk,
    Bool.and_self]

/-! ## Many lines -/

theorem lineFeed_notMem_of_isOneLine {s : String} (h : isOneLine s = true) : '\n' ∉ s.toList :=
  fun hm => by simpa [isLineEnd] using List.all_eq_true.1 h '\n' hm

theorem WellNamed.lineFeed_notMem {m : Message} (h : m.WellNamed) : '\n' ∉ m.line.toList :=
  lineFeed_notMem_of_isOneLine (isOneLine_line (isName_of_isWord h.name)
    fun p hp => isName_of_isWord (h.keys p hp))

/-- **A text of lines of messages is read as the messages**, one for each line and in order. -/
theorem decodeAll?_textOf {ms : List Message} (h : ∀ m ∈ ms, m.WellNamed) :
    decodeAll? (Stream.textOf (ms.map line)) = some (ms.map sorted) := by
  have hls : ∀ l ∈ ms.map line, '\n' ∉ l.toList := by
    intro l hl
    obtain ⟨m, hm, rfl⟩ := List.mem_map.1 hl
    exact (h m hm).lineFeed_notMem
  rw [decodeAll?, Stream.splitOn_textOf hls, List.getLast?_concat, if_pos rfl,
    List.dropLast_concat]
  induction ms with
  | nil => rfl
  | cons m ms ih =>
    have ih' := ih (fun m' hm' => h m' (List.mem_cons_of_mem _ hm')) fun l hl =>
      hls l (List.mem_cons_of_mem _ hl)
    simp only [List.map_cons, List.mapM_cons, String.ofList_toList, decode?_line (h m (by simp)),
      ih']
    rfl

end Message

end InspectionFeed
