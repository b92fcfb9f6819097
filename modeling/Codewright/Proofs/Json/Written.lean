import Codewright.Proofs.Json.Strings

/-!
# The text of a value

Two values have the same text only if they are the same value, and even the beginnings of two longer
texts can be told apart as long as no digit follows, which would go on with a number. No character of
a text is a control character.
-/

namespace Codewright.Json

variable {rest rest' : List Char}

/-! ## First characters -/

/-- A character that stands for all those with which values of the same kind start. -/
def markOf (c : Char) : Char :=
  if c.isDigit then '0' else if c = 'f' then 't' else c

/-- The mark of the first character of a value. -/
def mark : Json → Char
  | null => 'n'
  | bool _ => 't'
  | number _ => '0'
  | text _ => '"'
  | list _ => '['
  | record _ => '\x7b'

theorem isSpace_of_isDigit {c : Char} (h : c.isDigit = true) : isSpace (some c) = false := by
  have hne : ∀ d : Char, d.isDigit = false → c ≠ d := by
    rintro d hd rfl
    cases h.symm.trans hd
  simp [isSpace, hne ' ' rfl, hne '\n' rfl, hne '\t' rfl, hne '\r' rfl]

theorem exists_toDigits_cons (n : Nat) :
    ∃ c t, Nat.toDigits 10 n = c :: t ∧ c.isDigit = true := by
  obtain ⟨c, t, h⟩ := List.exists_cons_of_ne_nil (Nat.toDigits_ne_nil (n := n) (b := 10))
  exact ⟨c, t, h, Nat.isDigit_of_mem_toDigits (b := 10) (n := n) (by decide) (by decide)
    (h ▸ .head _)⟩

theorem exists_chars_cons (j : Json) :
    ∃ c t, j.chars = c :: t ∧ markOf c = j.mark ∧ isSpace (some c) = false := by
  cases j with
  | null => exact ⟨_, _, rfl, rfl, rfl⟩
  | bool b =>
      cases b with
      | true | false => exact ⟨_, _, rfl, rfl, rfl⟩
  | number n =>
      obtain ⟨c, t, h, hc⟩ := exists_toDigits_cons n
      exact ⟨c, t, h, if_pos hc, isSpace_of_isDigit hc⟩
  | text s => exact ⟨_, _, rfl, rfl, rfl⟩
  | list items =>
      cases items with
      | nil => exact ⟨_, _, rfl, rfl, rfl⟩
      | cons => exact ⟨_, _, by rw [chars]; rfl, rfl, rfl⟩
  | record members =>
      cases members with
      | nil => exact ⟨_, _, rfl, rfl, rfl⟩
      | cons => exact ⟨_, _, by rw [chars]; rfl, rfl, rfl⟩

theorem mark_eq {j j' : Json} (h : j.chars ++ rest = j'.chars ++ rest') : j.mark = j'.mark := by
  obtain ⟨c, t, hj, hmark, -⟩ := exists_chars_cons j
  obtain ⟨c', t', hj', hmark', -⟩ := exists_chars_cons j'
  rw [hj, hj'] at h
  obtain ⟨rfl, -⟩ := List.cons.inj h
  exact hmark.symm.trans hmark'

theorem mark_ne_close (j : Json) : j.mark ≠ ']' := by
  cases j with
  | null | bool b | number n | text s | list items | record members => simp [mark]

theorem chars_append_ne (j : Json) : j.chars ++ rest ≠ ']' :: rest' := by
  obtain ⟨c, t, hj, hmark, -⟩ := exists_chars_cons j
  intro h
  rw [hj] at h
  obtain ⟨rfl, -⟩ := List.cons.inj h
  exact mark_ne_close j hmark.symm

/-! ## Texts and numbers -/

theorem quoted_inj {s s' : String} (h : quoted s ++ rest = quoted s' ++ rest') :
    s = s' ∧ rest = rest' := by
  have hread := readString_escaped s.toList (rest.map some)
  have hread' := readString_escaped s'.toList (rest'.map some)
  have hbody : s.toList.flatMap escapeChar ++ '"' :: rest =
      s'.toList.flatMap escapeChar ++ '"' :: rest' := by
    simpa [quoted] using h
  have hsymbols := congrArg (List.map some) hbody
  simp only [List.map_append, List.map_cons] at hsymbols
  rw [hsymbols, hread'] at hread
  obtain ⟨hs, hrest⟩ := Prod.mk.inj (Except.ok.inj hread)
  exact ⟨(String.toList_inj.mp hs).symm,
    ((List.map_inj_right fun _ _ => Option.some.inj).mp hrest).symm⟩

/-- No digit follows. -/
def Stops (rest : List Char) : Prop :=
  ∀ c ∈ rest.head?, c.isDigit = false

theorem takeWhile_toDigits (n : Nat) (h : Stops rest) :
    (Nat.toDigits 10 n ++ rest).takeWhile Char.isDigit = Nat.toDigits 10 n := by
  rw [List.takeWhile_append_of_pos fun c hc => Nat.isDigit_of_mem_toDigits (by decide) (by decide) hc]
  cases rest with
  | nil => rw [List.takeWhile_nil, List.append_nil]
  | cons c rest =>
      rw [List.takeWhile_cons_of_neg (by simp [h c rfl]), List.append_nil]

theorem toDigits_inj {n n' : Nat} (hstops : Stops rest) (hstops' : Stops rest')
    (h : Nat.toDigits 10 n ++ rest = Nat.toDigits 10 n' ++ rest') : n = n' ∧ rest = rest' := by
  have hdigits : Nat.toDigits 10 n = Nat.toDigits 10 n' := by
    rw [← takeWhile_toDigits n hstops, h, takeWhile_toDigits n' hstops']
  refine ⟨?_, List.append_cancel_left (hdigits ▸ h)⟩
  rw [← Nat.ofDigitChars_ten_toDigits (n := n), hdigits, Nat.ofDigitChars_ten_toDigits]

/-! ## Values -/

theorem stops_of_not_digit {c : Char} (h : c.isDigit = false) : Stops (c :: rest) := by
  rintro d ⟨⟩
  exact h

theorem stops_itemChars (js : List Json) : Stops (itemChars js ++ ']' :: rest) := by
  cases js with
  | nil => exact stops_of_not_digit rfl
  | cons => exact stops_of_not_digit rfl

theorem stops_memberChars (ms : List (String × Json)) :
    Stops (memberChars ms ++ '\x7d' :: rest) := by
  cases ms with
  | nil => exact stops_of_not_digit rfl
  | cons => exact stops_of_not_digit rfl

theorem bool_inj {b b' : Bool} (h : (bool b).chars ++ rest = (bool b').chars ++ rest') :
    b = b' ∧ rest = rest' := by
  cases b with
  | true =>
      cases b' with
      | true => exact ⟨rfl, List.append_cancel_left h⟩
      | false => simp [chars] at h
  | false =>
      cases b' with
      | true => simp [chars] at h
      | false => exact ⟨rfl, List.append_cancel_left h⟩

mutual

theorem chars_inj (j j' : Json) {rest rest' : List Char} (hstops : Stops rest)
    (hstops' : Stops rest') (h : j.chars ++ rest = j'.chars ++ rest') : j = j' ∧ rest = rest' := by
  -- The first character tells the kinds apart, and only values of one kind are left.
  have hmark := mark_eq h
  cases j <;> cases j' <;> simp only [mark, Char.reduceEq] at hmark
  case null.null => exact ⟨rfl, List.append_cancel_left h⟩
  case bool.bool b b' =>
    obtain ⟨rfl, hrest⟩ := bool_inj h
    exact ⟨rfl, hrest⟩
  case number.number n n' =>
    obtain ⟨rfl, hrest⟩ := toDigits_inj hstops hstops' h
    exact ⟨rfl, hrest⟩
  case text.text s s' =>
    obtain ⟨rfl, hrest⟩ := quoted_inj h
    exact ⟨rfl, hrest⟩
  case list.list items items' =>
    cases items with
    | nil =>
        cases items' with
        | nil => exact ⟨rfl, List.append_cancel_left h⟩
        | cons j' js' =>
            simp only [chars, List.cons_append, List.append_assoc, List.nil_append] at h
            exact absurd (List.cons.inj h).2.symm (chars_append_ne j')
    | cons j js =>
        cases items' with
        | nil =>
            simp only [chars, List.cons_append, List.append_assoc, List.nil_append] at h
            exact absurd (List.cons.inj h).2 (chars_append_ne j)
        | cons j' js' =>
            have hitems : itemChars (j :: js) ++ ']' :: rest =
                itemChars (j' :: js') ++ ']' :: rest' := by
              simpa [chars, itemChars] using h
            obtain ⟨hjs, hrest⟩ := itemChars_inj (j :: js) (j' :: js') hitems
            exact ⟨congrArg list hjs, hrest⟩
  case record.record members members' =>
    cases members with
    | nil =>
        cases members' with
        | nil => exact ⟨rfl, List.append_cancel_left h⟩
        | cons => simp [chars, quoted] at h
    | cons m ms =>
        cases members' with
        | nil => simp [chars, quoted] at h
        | cons m' ms' =>
            have hmembers : memberChars (m :: ms) ++ '\x7d' :: rest =
                memberChars (m' :: ms') ++ '\x7d' :: rest' := by
              simpa [chars, memberChars] using h
            obtain ⟨hms, hrest⟩ := memberChars_inj (m :: ms) (m' :: ms') hmembers
            exact ⟨congrArg record hms, hrest⟩

theorem itemChars_inj (js js' : List Json) {rest rest' : List Char}
    (h : itemChars js ++ ']' :: rest = itemChars js' ++ ']' :: rest') :
    js = js' ∧ rest = rest' := by
  cases js with
  | nil =>
      cases js' with
      | nil => exact ⟨rfl, (List.cons.inj h).2⟩
      | cons => simp [itemChars] at h
  | cons j js =>
      cases js' with
      | nil => simp [itemChars] at h
      | cons j' js' =>
          simp only [itemChars, List.cons_append, List.append_assoc] at h
          obtain ⟨rfl, hmore⟩ :=
            chars_inj j j' (stops_itemChars js) (stops_itemChars js') (List.cons.inj h).2
          obtain ⟨rfl, hrest⟩ := itemChars_inj js js' hmore
          exact ⟨rfl, hrest⟩

theorem memberChars_inj (ms ms' : List (String × Json)) {rest rest' : List Char}
    (h : memberChars ms ++ '\x7d' :: rest = memberChars ms' ++ '\x7d' :: rest') :
    ms = ms' ∧ rest = rest' := by
  cases ms with
  | nil =>
      cases ms' with
      | nil => exact ⟨rfl, (List.cons.inj h).2⟩
      | cons => simp [memberChars] at h
  | cons m ms =>
      cases ms' with
      | nil => simp [memberChars] at h
      | cons m' ms' =>
          obtain ⟨name, value⟩ := m
          obtain ⟨name', value'⟩ := m'
          simp only [memberChars, List.cons_append, List.append_assoc] at h
          obtain ⟨rfl, hvalue⟩ := quoted_inj (List.cons.inj h).2
          obtain ⟨rfl, hmore⟩ := chars_inj value value' (stops_memberChars ms)
            (stops_memberChars ms') (List.cons.inj hvalue).2
          obtain ⟨rfl, hrest⟩ := memberChars_inj ms ms' hmore
          exact ⟨rfl, hrest⟩

end

theorem render_injective : Function.Injective render := by
  intro j j' h
  have hchars : j.chars ++ [] = j'.chars ++ [] := by
    rw [List.append_nil, List.append_nil, ← String.ofList_inj]
    exact h
  exact (chars_inj j j' (by simp [Stops]) (by simp [Stops]) hchars).1

/-! ## Control characters -/

/-- No control character occurs. -/
def Plain (cs : List Char) : Prop :=
  ∀ c ∈ cs, 0x20 ≤ c.toNat

@[simp]
theorem plain_nil : Plain [] :=
  fun _ h => by cases h

@[simp]
theorem plain_cons {c : Char} {cs : List Char} : Plain (c :: cs) ↔ 0x20 ≤ c.toNat ∧ Plain cs :=
  List.forall_mem_cons

@[simp]
theorem plain_append {cs cs' : List Char} : Plain (cs ++ cs') ↔ Plain cs ∧ Plain cs' :=
  List.forall_mem_append

theorem plain_hexDigit : ∀ n < 16, 0x20 ≤ (hexDigit n).toNat := by
  decide

theorem plain_escapeChar (c : Char) : Plain (escapeChar c) := by
  obtain ⟨e, hwritten, -, he, -⟩ | ⟨hc, hwritten⟩ | ⟨-, -, hc, hwritten⟩ := escapeChar_cases c
  · simp [hwritten, he]
  · simp [hwritten, plain_hexDigit (c.toNat / 16) (by omega),
      plain_hexDigit (c.toNat % 16) (by omega)]
  · simp [hwritten, hc]

theorem plain_quoted (s : String) : Plain (quoted s) := by
  have hbody : Plain (s.toList.flatMap escapeChar) := by
    intro c hc
    obtain ⟨d, -, hd⟩ := List.mem_flatMap.mp hc
    exact plain_escapeChar d c hd
  simp [quoted, hbody]

theorem plain_toDigits (n : Nat) : Plain (Nat.toDigits 10 n) := by
  intro c hc
  have hdigit := Nat.isDigit_of_mem_toDigits (by decide) (by decide) hc
  simp only [Char.isDigit, Bool.and_eq_true, decide_eq_true_eq] at hdigit
  exact Nat.le_trans (by decide) hdigit.1

mutual

theorem plain_chars : ∀ j : Json, Plain j.chars
  | null => by simp [chars]
  | bool true => by simp [chars]
  | bool false => by simp [chars]
  | number n => plain_toDigits n
  | text s => plain_quoted s
  | list [] => by simp [chars]
  | list (j :: js) => by simp [chars, plain_chars j, plain_itemChars js]
  | record [] => by simp [chars]
  | record ((name, value) :: ms) => by
      simp [chars, plain_quoted name, plain_chars value, plain_memberChars ms]

theorem plain_itemChars : ∀ js : List Json, Plain (itemChars js)
  | [] => plain_nil
  | j :: js => by simp [itemChars, plain_chars j, plain_itemChars js]

theorem plain_memberChars : ∀ ms : List (String × Json), Plain (memberChars ms)
  | [] => plain_nil
  | (name, value) :: ms => by
      simp [memberChars, plain_quoted name, plain_chars value, plain_memberChars ms]

end

end Codewright.Json
