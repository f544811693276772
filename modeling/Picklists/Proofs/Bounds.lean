import Picklists.Json.Reader
import Picklists.Proofs.Order
import Picklists.Proofs.Values

/-!
# Bounded documents

Integers that are read are never too long to be written, and arrays are never longer than the text
that they are read from.

* `GivesInteger.writable` : an integer that a value gives can be written if the value can.
* `Window.writable_of_decode` : **so can a window that an object describes**.
* `Json.Bounded` : all integers of a document are short enough to be written, and all arrays are
  short enough for their lengths to be written.
* `Json.bounded_of_read` : **a text gives a bounded document**, unless it is too long itself.
-/

namespace Picklists

/-! ### Numerals -/

namespace Numeral

theorem ofDigits_lt {digits : List Nat} (h : ∀ d ∈ digits, d < 10) :
    ofDigits digits < 10 ^ digits.length := by
  induction digits using List.reverseRecOn with
  | nil => simp [ofDigits]
  | append_singleton digits d ih =>
    have hdigits := ih fun e he => h e (by simp [he])
    have hlast : d < 10 := h d (by simp)
    rw [ofDigits, List.foldl_append, ← ofDigits, List.length_append, List.length_singleton,
      Nat.pow_succ]
    simp only [List.foldl_cons, List.foldl_nil]
    omega

/-- A numeral that is short enough to be read stands for an integer that can be written. -/
theorem writable_signed {digits : List Nat} (h : ∀ d ∈ digits, d < 10)
    (hshort : digits.length ≤ maxDigits) (negative : Bool) :
    Writable (signed negative (ofDigits digits)) := by
  have habs : (signed negative (ofDigits digits)).natAbs = ofDigits digits := by
    cases negative <;> simp [signed]
  rw [writable_iff, habs]
  exact Nat.lt_of_lt_of_le (ofDigits_lt h) (Nat.pow_le_pow_right (by decide) hshort)

end Numeral

theorem sub_zero_lt_of_isDigit {c : Char} (h : c.isDigit = true) : c.toNat - 0x30 < 10 := by
  have hlast : c.toNat ≤ 0x39 := by
    simpa [Char.isDigit, UInt32.le_iff_toNat_le] using (Bool.and_eq_true_iff.1 h).2
  omega

/-- The values of some digits. -/
theorem lt_of_mem_digits {cs : List Char} {d : Nat}
    (h : d ∈ (cs.takeWhile Char.isDigit).map fun c => c.toNat - 0x30) : d < 10 := by
  obtain ⟨c, hc, rfl⟩ := List.mem_map.1 h
  exact sub_zero_lt_of_isDigit (List.all_eq_true.1 (List.all_takeWhile) c hc)

namespace Received

theorem writable_of_plainInteger {cs : List Char} {n : Int} (h : plainInteger cs = .ok n) :
    Numeral.Writable n := by
  unfold plainInteger at h
  split at h
  rename_i negative body _
  split at h
  · split at h <;> cases h
    decide
  · dsimp only at h
    split at h
    · cases h
    · split at h
      · cases h
      · rename_i hshort
        split at h <;> cases h
        exact Numeral.writable_signed (fun d => lt_of_mem_digits) (Nat.not_lt.1 hshort) negative

/-- A text gives an integer that can be written. -/
theorem writable_of_readInteger {cs : List Char} {n : Int} (h : readInteger cs = .ok n) :
    Numeral.Writable n := by
  rw [readInteger] at h
  split at h
  · rename_i hplain
    cases h
    exact writable_of_plainInteger hplain
  · cases h
  · split at h
    · rename_i htidy
      cases h
      obtain ⟨tidy, -, hplain⟩ := Option.map_eq_some_iff.1 htidy
      exact writable_of_plainInteger hplain
    · cases h

end Received

/-- An integer that a value gives can be written if the value can. -/
theorem GivesInteger.writable {value : Json} {n : Int} (h : GivesInteger value n)
    (hvalue : value.Writable) : Numeral.Writable n := by
  cases h with
  | int => exact hvalue
  | false | true => decide
  | real hwhole hlower hupper =>
    have hword : Numeral.Writable (2 ^ 63) := by decide
    exact hword.of_natAbs_le (by omega)
  | text hunicode hnumeral => exact Received.writable_of_readInteger hnumeral

/-! ### Windows -/

/-- A bound of a window can be written if the object that gives it can. -/
theorem Window.writable_of_optional {given : Fields} (hgiven : (Json.object given).Writable)
    {name : String} {bound : Option Nat}
    (h : Checked.optional name none (.nullable .natural) given = .valid bound) :
    ∀ position ∈ bound, Numeral.Writable position := by
  rintro position ⟨⟩
  cases hfield : Json.field? given name with
  | none =>
    rw [Checked.optional, hfield] at h
    cases h
  | some value =>
    have hvalue : value.Writable := hgiven.of_field? hfield
    rw [Checked.optional_of_field value hfield, Decoder.nullable.eq_def] at h
    split at h
    · cases h
    · obtain ⟨n, hn, hposition⟩ := Checked.map_eq_valid_iff.1 h
      cases hposition
      exact (Decoder.natural_eq_valid_iff.1 hn).writable hvalue

/-- **A window that an object describes can be written if the object can.**  So nothing that is read
from a text is too long. -/
theorem Window.writable_of_decode {value : Json} {window : Window} (hvalue : value.Writable)
    (h : decode value = .valid window) : Writable (some window) := by
  cases value with
  | object given =>
    obtain ⟨partly, limit, hpartly, hlimit, rfl⟩ := Checked.seq_eq_valid_iff.1 h
    obtain ⟨offset, hoffset, rfl⟩ := Checked.map_eq_valid_iff.1 hpartly
    exact ⟨writable_of_optional hvalue hoffset, writable_of_optional hvalue hlimit⟩
  | _ => cases h

/-! ### Documents -/

namespace Json

mutual

theorem All.imp {p q : Json → Prop} (h : ∀ value, p value → q value) :
    ∀ {value : Json}, value.All p → value.All q
  | .null, hvalue | .bool _, hvalue | .int _, hvalue | .real _, hvalue | .text _, hvalue =>
    h _ hvalue
  | .array _, hvalue => ⟨h _ hvalue.1, AllItems.imp h hvalue.2⟩
  | .object _, hvalue => ⟨h _ hvalue.1, AllFields.imp h hvalue.2⟩

theorem AllItems.imp {p q : Json → Prop} (h : ∀ value, p value → q value) :
    ∀ {items : List Json}, AllItems p items → AllItems q items
  | [], _ => trivial
  | _ :: _, hitems => ⟨hitems.1.imp h, AllItems.imp h hitems.2⟩

theorem AllFields.imp {p q : Json → Prop} (h : ∀ value, p value → q value) :
    ∀ {fields : List (Text × Json)}, AllFields p fields → AllFields q fields
  | [], _ => trivial
  | _ :: _, hfields => ⟨hfields.1.imp h, AllFields.imp h hfields.2⟩

end

/-- An integer is short enough to be written, and so is the number of the items of an array. -/
def Fits : Json → Prop
  | .int value => Numeral.Writable value
  | .array items => Numeral.Writable items.length
  | _ => True

/-- All integers and all arrays in a value are short enough. -/
def Bounded (value : Json) : Prop := value.All Fits

theorem Bounded.writable {value : Json} (h : value.Bounded) : value.Writable :=
  h.imp fun value hvalue => by cases value <;> first | exact hvalue | trivial

/-! ### Tokens -/

/-- The digits of a token are digits, and the value that a token is fits. -/
def Token.Fits : Token → Prop
  | .integer _ digits => ∀ d ∈ digits, d < 10
  | .scalar value => value.Bounded
  | .mark _ | .text _ => True

theorem fits_numberTail {whole : List Nat} (h : ∀ d ∈ whole, d < 10) (negative : Bool)
    (cs : List Char) : (numberTail negative whole cs).1.Fits := by
  rw [numberTail]
  split
  · trivial
  · split
    · trivial
    · exact h

theorem fits_number? {negative : Bool} {cs rest : List Char} {token : Token}
    (h : number? negative cs = some (token, rest)) : token.Fits := by
  rw [number?.eq_def] at h
  split at h
  · rename_i tail
    have htoken : (numberTail negative [0] tail).1 = token :=
      congrArg Prod.fst (Option.some.inj h)
    exact htoken ▸ fits_numberTail (by decide) negative tail
  · split at h
    · cases h
    · rename_i whole tail _ hdigits
      have htoken : (numberTail negative whole tail).1 = token :=
        congrArg Prod.fst (Option.some.inj h)
      simp only [digits, Prod.mk.injEq] at hdigits
      obtain ⟨rfl, -⟩ := hdigits
      exact htoken ▸ fits_numberTail (fun d => lt_of_mem_digits) negative tail

theorem bounded_of_mem_words {word : List Char × Json} (h : word ∈ words) : word.2.Bounded := by
  simp only [words, List.mem_cons, List.not_mem_nil, or_false] at h
  rcases h with rfl | rfl | rfl | rfl | rfl | rfl <;> trivial

theorem fits_nextToken? {cs rest : List Char} {token : Token}
    (h : nextToken? cs = some (token, rest)) : token.Fits := by
  rw [nextToken?.eq_def] at h
  split at h
  · cases h
  · split at h
    · cases h
      trivial
    · split at h
      · obtain ⟨found, -, h⟩ := Option.map_eq_some_iff.1 h
        cases h
        trivial
      · split at h
        · rename_i hword
          cases h
          obtain ⟨word, hfind, hword⟩ := Option.map_eq_some_iff.1 hword
          cases hword
          exact bounded_of_mem_words (List.mem_of_find?_eq_some hfind)
        · split at h
          · exact fits_number? h
          · exact fits_number? h

/-! ### The reader -/

/-- The values in a container that is open fit, and an array has no more items than characters are
read. -/
def Open.Fits (count : Nat) : Open → Prop
  | .array done => done.length ≤ count ∧ ∀ item ∈ done, item.Bounded
  | .member done _ => ∀ field ∈ done, field.2.Bounded

/-- The same of the container that comes next. -/
def Mode.Fits (count : Nat) : Mode → Prop
  | .arrayNext done => done.length ≤ count ∧ ∀ item ∈ done, item.Bounded
  | .name done | .colon done _ | .objectNext done => ∀ field ∈ done, field.2.Bounded
  | .finished document => document.Bounded
  | .value | .arrayStart | .objectStart => True

/-- The state of the reader fits after some characters. -/
structure State.Fits (count : Nat) (state : State) : Prop where
  /-- The containers around fit. -/
  stack : ∀ container ∈ state.stack, container.Fits count
  /-- What comes next fits. -/
  mode : state.mode.Fits count

variable {count : Nat}

theorem Open.Fits.succ {container : Open} (h : container.Fits count) :
    container.Fits (count + 1) := by
  cases container with
  | array done => exact ⟨Nat.le_succ_of_le h.1, h.2⟩
  | member done name => exact h

theorem forall_fits_succ {stack : List Open} (h : ∀ container ∈ stack, container.Fits count) :
    ∀ container ∈ stack, container.Fits (count + 1) :=
  fun container hcontainer => (h container hcontainer).succ

/-- A value that fits can be handed to the container around it. -/
theorem fits_place {value : Json} {stack : List Open} (hvalue : value.Bounded)
    (h : ∀ container ∈ stack, container.Fits count) : (place value stack).Fits (count + 1) := by
  cases stack with
  | nil => exact ⟨nofun, hvalue⟩
  | cons container stack =>
    obtain ⟨hfirst, hrest⟩ := List.forall_mem_cons.1 h
    cases container with
    | array done =>
      obtain ⟨hlength, hdone⟩ := hfirst
      exact ⟨forall_fits_succ hrest, Nat.succ_le_succ hlength,
        List.forall_mem_cons.2 ⟨hvalue, hdone⟩⟩
    | member done name =>
      exact ⟨forall_fits_succ hrest, List.forall_mem_cons.2 ⟨hvalue, hfirst⟩⟩

theorem fits_enter {container : Container} {stack : List Open} {next : State}
    (h : ∀ container ∈ stack, container.Fits count) (hnext : enter container stack = .ok next) :
    next.Fits (count + 1) := by
  rw [enter.eq_def] at hnext
  split at hnext
  · cases hnext
  · split at hnext <;> cases hnext <;> exact ⟨forall_fits_succ h, trivial⟩

theorem fits_takeValue {stack : List Open} {token : Token} {next : State} (htoken : token.Fits)
    (h : ∀ container ∈ stack, container.Fits count) (hnext : takeValue stack token = .ok next) :
    next.Fits (count + 1) := by
  rw [takeValue.eq_def] at hnext
  split at hnext
  · exact fits_enter h hnext
  · exact fits_enter h hnext
  · cases hnext
  · cases hnext
    exact fits_place trivial h
  · cases hnext
    exact fits_place htoken h
  · split at hnext
    · cases hnext
    · rename_i hshort
      cases hnext
      exact fits_place (Numeral.writable_signed htoken (Nat.not_lt.1 hshort) _) h

/-- An array with no more items than characters are read fits. -/
theorem bounded_array {done : List Json} (hcount : Numeral.Writable count)
    (hlength : done.length ≤ count) (hdone : ∀ item ∈ done, item.Bounded) :
    (array done.reverse).Bounded :=
  ⟨Numeral.writable_natCast_of_le hcount (by simpa using hlength),
    allItems_iff.2 fun item hitem => hdone item (List.mem_reverse.1 hitem)⟩

theorem bounded_object {done : List (Text × Json)} (hdone : ∀ field ∈ done, field.2.Bounded) :
    (object (lastWins done.reverse)).Bounded := by
  refine ⟨trivial, allFields_iff.2 fun field hfield => ?_⟩
  have hlisted := mem_of_getElem?_lastValues (mem_lastWins.1 hfield)
  exact hdone field (List.mem_reverse.1 hlisted)

/-- **A token keeps the state of the reader in shape.** -/
theorem State.Fits.take {state next : State} {token : Token} (h : state.Fits count)
    (hcount : Numeral.Writable count) (htoken : token.Fits) (hnext : state.take token = .ok next) :
    next.Fits (count + 1) := by
  have hnow {mode : Mode} (hmode : state.mode = mode) : mode.Fits count := hmode ▸ h.mode
  rw [State.take.eq_def] at hnext
  -- the cases are the modes with the tokens that may come in them
  split at hnext
  case h_1 => exact fits_takeValue htoken h.stack hnext
  case h_2 =>
    cases hnext
    exact fits_place ⟨show Numeral.Writable 0 by decide, trivial⟩ h.stack
  case h_3 =>
    have hopen : Open.Fits count (.array []) := ⟨Nat.zero_le count, nofun⟩
    exact fits_takeValue htoken (List.forall_mem_cons.2 ⟨hopen, h.stack⟩) hnext
  case h_4 hmode =>
    cases hnext
    exact ⟨forall_fits_succ (List.forall_mem_cons.2 ⟨hnow hmode, h.stack⟩), trivial⟩
  case h_5 hmode =>
    cases hnext
    obtain ⟨hlength, hdone⟩ := hnow hmode
    exact fits_place (bounded_array hcount hlength hdone) h.stack
  case h_6 =>
    cases hnext
    exact fits_place ⟨trivial, trivial⟩ h.stack
  case h_7 =>
    cases hnext
    exact ⟨forall_fits_succ h.stack, nofun⟩
  case h_8 hmode =>
    cases hnext
    exact ⟨forall_fits_succ h.stack, hnow hmode⟩
  case h_9 done name hmode =>
    cases hnext
    have hopen : Open.Fits count (.member done name) := hnow hmode
    exact ⟨forall_fits_succ (List.forall_mem_cons.2 ⟨hopen, h.stack⟩), trivial⟩
  case h_10 hmode =>
    cases hnext
    exact ⟨forall_fits_succ h.stack, hnow hmode⟩
  case h_11 hmode =>
    cases hnext
    exact fits_place (bounded_object (hnow hmode)) h.stack
  case h_12 => cases hnext

/-- What is read after some characters is bounded. -/
theorem bounded_of_readFrom {state : State} {cs : List Char} {document : Json}
    (h : state.Fits count) (hcount : Numeral.Writable (count + cs.length : Nat))
    (hread : readFrom state cs = .ok document) : document.Bounded := by
  -- the count grows with every token, by no more than the characters that it takes
  fun_induction readFrom state cs generalizing count with
  | case1 state cs hend last hmode =>
    cases hread
    have hlast : Mode.Fits count (.finished document) := hmode ▸ h.mode
    exact hlast
  | case2 | case3 | case4 => cases hread
  | case5 state cs c rest hcs token after htoken next hnext ih =>
    have hshorter := nextToken?_length htoken
    have hgap : (cs.dropWhile isGap).length ≤ cs.length :=
      (List.dropWhile_sublist isGap).length_le
    rw [hcs] at hgap
    have hnow : Numeral.Writable count := Numeral.writable_natCast_of_le hcount (by omega)
    exact ih (h.take hnow (fits_nextToken? htoken) hnext)
      (Numeral.writable_natCast_of_le hcount (by omega)) hread

/-- **What is read from a text is bounded**, unless the text is too long itself. -/
theorem bounded_of_read {content : String} {document : Json}
    (hlength : Numeral.Writable content.length) (h : read content = .ok document) :
    document.Bounded := by
  have hstart : State.Fits 0 ⟨[], .value⟩ := ⟨nofun, trivial⟩
  exact bounded_of_readFrom hstart (by simpa [String.length_toList] using hlength) h

end Json

end Picklists
