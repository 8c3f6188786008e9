import Mathlib.Data.List.Forall2
import Minispec.Json.Reader
import Minispec.Json.Writer
import Minispec.Proofs.NumeralText

/-!
Reading the text of a JSON value gives the value back, in both layouts, if its numerals are such
as JSON has. The reader is a machine that may be in the middle of any number of containers, so
the statement about a part is that the machine passes over its text and goes on as if the
finished value had been handed to it. What a value stands for is not looked at.
-/

namespace Minispec.Json

/-! ### Strings -/

theorem hexValue_digitChar {d : Nat} (h : d < 16) : hexValue? (Nat.digitChar d) = some d := by
  have hall : ∀ d < 16, hexValue? (Nat.digitChar d) = some d := by decide
  exact hall d h

/-- A control character is given by its code, in four digits. -/
theorem readPieces_control {c : Char} (h : c.toNat < 0x20) (rest : List Char) :
    readPieces ('\\' :: 'u' :: '0' :: '0' :: Nat.digitChar (c.toNat / 16) ::
        Nat.digitChar (c.toNat % 16) :: rest) =
      (readPieces rest).map fun p => (.char c :: p.1, p.2) := by
  have hhigh := hexValue_digitChar (d := c.toNat / 16) (by omega)
  have hlow := hexValue_digitChar (d := c.toNat % 16) (by omega)
  have hzero : hexValue? '0' = some 0 := rfl
  have hcode : ((0 * 16 + 0) * 16 + c.toNat / 16) * 16 + c.toNat % 16 = c.toNat := by omega
  have hpiece : Piece.ofCode c.toNat = .char c := by
    rw [Piece.ofCode, if_neg (by omega), Char.ofNat_toNat]
  simp only [readPieces, hhigh, hlow, hzero, Option.bind_eq_bind, Option.bind_some, hcode, hpiece,
    Option.map_eq_bind]
  rfl

theorem readPieces_escapeChar (c : Char) (rest : List Char) :
    readPieces (escapeChar c ++ rest) =
      (readPieces rest).map fun p => (.char c :: p.1, p.2) := by
  unfold escapeChar
  split
  case h_8 hquote hbackslash _ _ _ _ _ =>
      split
      · next hcontrol => exact readPieces_control hcontrol rest
      · next hcontrol =>
          have hplain : ¬ (c = '\\' ∨ c.toNat < 0x20) := not_or.2 ⟨hbackslash, hcontrol⟩
          rw [List.singleton_append, readPieces]
          · rw [if_neg hplain, Option.map_eq_bind]
            rfl
          all_goals grind
  all_goals
    simp only [List.cons_append, List.nil_append, Option.map_eq_bind]
    rfl

theorem joinPieces_chars (cs : List Char) : joinPieces (cs.map .char) = some cs := by
  induction cs with
  | nil => rfl
  | cons c cs ih => rw [List.map_cons, joinPieces, ih, Option.map_some]

theorem readPieces_escaped (cs rest : List Char) :
    readPieces (cs.flatMap escapeChar ++ '"' :: rest) = some (cs.map .char, rest) := by
  induction cs with
  | nil => rfl
  | cons c cs ih =>
      rw [List.flatMap_cons, List.append_assoc, readPieces_escapeChar, ih]
      rfl

/-! ### Tokens -/

/-- Where a value may end: with the text, before punctuation, or at the end of a line. -/
def ValueEnds (rest : List Char) : Prop :=
  ∀ c ∈ rest.head?, c = ',' ∨ c = ']' ∨ c = '\x7d' ∨ c = '\n'

theorem ValueEnds.numeralEnds {rest : List Char} (h : ValueEnds rest) :
    Decimal.NumeralEnds rest := by
  intro c hc
  obtain rfl | rfl | rfl | rfl := h c hc <;> decide

theorem valueEnds_nil : ValueEnds [] :=
  nofun

theorem valueEnds_cons {c : Char} (h : c ∈ [',', ']', '\x7d', '\n']) (rest : List Char) :
    ValueEnds (c :: rest) := by
  intro d hd
  cases hd
  simpa using h

namespace Token

theorem readFirst_text (s : String) (rest : List Char) :
    readFirst (writeString (some s) ++ rest) = some (.str (some s), rest) := by
  have hwritten : writeString (some s) = '"' :: (s.toList.flatMap escapeChar ++ ['"']) := rfl
  have hpieces := readPieces_escaped s.toList rest
  simp only [hwritten, List.cons_append, List.append_assoc, List.nil_append, readFirst, hpieces,
    Option.bind_eq_bind, Option.bind_some, joinPieces_chars, Option.map_some,
    String.ofList_toList]
  rfl

/-- A text that starts like a number is read as one. -/
theorem readFirst_number {c : Char} (h : c.isDigit = true ∨ c = '-') (cs : List Char) :
    readFirst (c :: cs) = do
      let (n, rest) ← Decimal.Numeral.scan (c :: cs)
      return (← ofNumeral? n, rest) := by
  have hne : ∀ d : Char, d.isDigit = false → d ≠ '-' → c ≠ d := by
    intro d hd hminus hcd
    cases h with
    | inl h => exact Decimal.ne_of_isDigit h hd hcd
    | inr h => exact hminus (hcd.symm.trans h)
  rw [readFirst]
  all_goals
    intro _ heq
    exact absurd (List.cons.inj heq).1 (hne _ rfl (by decide))

theorem readFirst_render {n : Decimal.Numeral} (h : n.Proper)
    (hzero : ofNumeral? n = some (.num n)) {rest : List Char} (hr : ValueEnds rest) :
    readFirst (n.render ++ rest) = some (.num n, rest) := by
  have hscan := Decimal.Numeral.scan_render h hr.numeralEnds
  obtain ⟨c, cs, hhead, hnumber⟩ : ∃ c cs, n.render ++ rest = c :: cs ∧
      (c.isDigit = true ∨ c = '-') := by
    obtain ⟨c, cs, hw⟩ := List.exists_cons_of_ne_nil h.whole.1
    have hc : c.isDigit = true := h.whole.2 c (by simp [hw])
    rw [Decimal.Numeral.render_eq, hw]
    cases n.negative with
    | true => exact ⟨_, _, rfl, .inr rfl⟩
    | false => exact ⟨_, _, rfl, .inl hc⟩
  rw [hhead] at hscan ⊢
  rw [readFirst_number hnumber, hscan]
  simp only [Option.bind_eq_bind, Option.bind_some, hzero]
  rfl

/-- No token starts with a blank. -/
theorem readFirst_blank {c : Char} (h : Text.isBlank c = true) (cs : List Char) :
    readFirst (c :: cs) = none := by
  simp only [Text.isBlank, Bool.or_eq_true, beq_iff_eq] at h
  obtain ((rfl | rfl) | rfl) | rfl := h <;> rfl

theorem readAll_blank {c : Char} (h : Text.isBlank c = true) (cs : List Char) :
    readAll (c :: cs) = readAll cs := by
  have hskip : Text.skipBlanks (c :: cs) = Text.skipBlanks cs := by
    simp only [Text.skipBlanks, List.dropWhile_cons, h, if_true]
  rw [readAll, readAll, hskip]

theorem readAll_token {cs rest : List Char} {token : Token}
    (h : readFirst cs = some (token, rest)) : readAll cs = (readAll rest).map (token :: ·) := by
  cases cs with
  | nil => cases h
  | cons c cs =>
      have hblank : Text.isBlank c = false := by
        cases hc : Text.isBlank c with
        | false => rfl
        | true =>
            rw [readFirst_blank hc] at h
            cases h
      have hskip : Text.skipBlanks (c :: cs) = c :: cs := by
        simp only [Text.skipBlanks, List.dropWhile_cons, hblank, Bool.false_eq_true, if_false]
      rw [readAll]
      split
      · next hnil => cases hskip.symm.trans hnil
      · next hcons =>
          cases hskip.symm.trans hcons
          split
          · next hnone => cases h.symm.trans hnone
          · next hsome =>
              cases h.symm.trans hsome
              rfl

end Token

/-! ### The machine on a text -/

/-- Reads the rest of a text from a state of the machine on. -/
def resume (s : State) (cs : List Char) : Option Json := do
  s.run (← Token.readAll cs)

theorem resume_token {s next : State} {cs rest : List Char} {token : Token}
    (hread : Token.readFirst cs = some (token, rest)) (hstep : s.step token = some next) :
    resume s cs = resume next rest := by
  simp only [resume, Token.readAll_token hread, Option.bind_eq_bind, Option.bind_map]
  refine congrArg _ (funext fun tokens => ?_)
  cases s <;> simp [State.run, hstep]

theorem resume_blanks {gap : List Char} (h : ∀ c ∈ gap, Text.isBlank c = true) (s : State)
    (cs : List Char) : resume s (gap ++ cs) = resume s cs := by
  induction gap with
  | nil => rfl
  | cons c gap ih =>
      have hc : Text.isBlank c = true := h c List.mem_cons_self
      rw [← ih fun d hd => h d (List.mem_cons_of_mem c hd), List.cons_append, resume, resume,
        Token.readAll_blank hc]

/-- The machine passes over the text from one state to another, whatever follows the text. -/
def Passes (before after : State) (text : List Char) : Prop :=
  ∀ rest, ValueEnds rest → resume before (text ++ rest) = resume after rest

/-! ### Containers -/

/-- Blanks between two tokens; if there are any, they start a new line. -/
def IsGap (gap : List Char) : Prop :=
  (∀ c ∈ gap, Text.isBlank c = true) ∧ ∀ c ∈ gap.head?, c = '\n'

theorem isGap_nil : IsGap [] :=
  ⟨nofun, nofun⟩

theorem isGap_newLine (depth : Nat) : IsGap (newLine depth) := by
  refine ⟨?_, fun c hc => (Option.some.inj hc).symm⟩
  intro c hc
  cases List.mem_cons.1 hc with
  | inl h =>
      rw [h]
      rfl
  | inr h =>
      rw [List.eq_of_mem_replicate h]
      rfl

/-- The states of the machine in a container, by the parts that it has so far, the latest first,
and what ends the container. -/
structure Container (α : Type) where
  start : State
  next : List α → State
  after : List α → State
  closed : List α → State
  closing : Char
  token : Token
  step_comma : ∀ done, (after done).step .comma = some (next done)
  step_start : start.step token = some (closed [])
  step_after : ∀ done, (after done).step token = some (closed done.reverse)
  read_closing : ∀ rest, Token.readFirst (closing :: rest) = some (token, rest)
  closing_ends : ∀ rest, ValueEnds (closing :: rest)

namespace Container

def array (frames : List Frame) : Container Json where
  start := .arrayStart frames
  next items := .value (.element items :: frames)
  after items := .afterElement items frames
  closed items := .complete (.arr items) frames
  closing := ']'
  token := .closeArr
  step_comma _ := rfl
  step_start := rfl
  step_after _ := rfl
  read_closing _ := rfl
  closing_ends := valueEnds_cons (by decide)

def object (frames : List Frame) : Container (Option String × Json) where
  start := .objectStart frames
  next members := .nextKey members frames
  after members := .afterMember members frames
  closed members := .complete (.obj members) frames
  closing := '\x7d'
  token := .closeObj
  step_comma _ := rfl
  step_start := rfl
  step_after _ := rfl
  read_closing _ := rfl
  closing_ends := valueEnds_cons (by decide)

variable {α : Type} {container : Container α} {gap last : List Char}

/-- The text of one part is passed over, be it the first part or behind a comma. -/
def ReadsPart (container : Container α) (text : List Char) (part : α) : Prop :=
  Passes container.start (container.after [part]) text ∧
    ∀ done, Passes (container.next done) (container.after (part :: done)) text

theorem valueEnds_gap (hlast : IsGap last) (rest : List Char) :
    ValueEnds (last ++ container.closing :: rest) := by
  cases last with
  | nil => exact container.closing_ends rest
  | cons c last =>
      rw [hlast.2 c rfl]
      exact valueEnds_cons (by decide) _

/-- Texts behind a comma each, and what follows them. -/
def furtherParts (gap : List Char) (texts : List (List Char)) (tail : List Char) : List Char :=
  texts.foldr (fun text rest => ',' :: (gap ++ (text ++ rest))) tail

theorem valueEnds_furtherParts {tail : List Char} (htail : ValueEnds tail)
    (texts : List (List Char)) : ValueEnds (furtherParts gap texts tail) := by
  cases texts with
  | nil => exact htail
  | cons text texts => exact valueEnds_cons (by decide) _

/-- Parts behind a comma are collected in front of those that the container already has. -/
theorem resume_furtherParts (hgap : IsGap gap) {texts : List (List Char)} {parts : List α}
    (h : List.Forall₂ container.ReadsPart texts parts) (done : List α) {tail : List Char}
    (htail : ValueEnds tail) :
    resume (container.after done) (furtherParts gap texts tail) =
      resume (container.after (parts.reverse ++ done)) tail := by
  induction h generalizing done with
  | nil => rfl
  | @cons text part texts parts hpart _ ih =>
      calc resume (container.after done) (furtherParts gap (text :: texts) tail)
          = resume (container.next done) (gap ++ (text ++ furtherParts gap texts tail)) :=
            resume_token rfl (container.step_comma done)
        _ = resume (container.after (part :: done)) (furtherParts gap texts tail) := by
            rw [resume_blanks hgap.1, hpart.2 done _ (valueEnds_furtherParts htail texts)]
        _ = resume (container.after ((part :: parts).reverse ++ done)) tail := by
            rw [ih, List.reverse_cons, List.append_assoc]
            rfl

theorem resume_closing (hlast : IsGap last) {s : State} {parts : List α}
    (hstep : s.step container.token = some (container.closed parts)) (rest : List Char) :
    resume s (last ++ container.closing :: rest) = resume (container.closed parts) rest := by
  rw [resume_blanks hlast.1, resume_token (container.read_closing rest) hstep]

theorem separated_append (gap closing rest : List Char) (texts : List (List Char)) :
    separated (',' :: gap) closing texts ++ rest =
      match texts with
      | [] => closing ++ rest
      | text :: texts => text ++ furtherParts gap texts (closing ++ rest) := by
  cases texts with
  | nil => rfl
  | cons text texts =>
      simp only [separated, List.append_assoc, List.append_cancel_left_eq]
      induction texts with
      | nil => rfl
      | cons text texts ih =>
          rw [List.foldr_cons, List.append_assoc, List.append_assoc, ih]
          rfl

/-- From its beginning to its end a container is passed over part by part. -/
theorem resume_separated (hgap : IsGap gap) (hlast : IsGap last) {texts : List (List Char)}
    {parts : List α} (h : List.Forall₂ container.ReadsPart texts parts) (rest : List Char) :
    resume container.start
        (gap ++ (separated (',' :: gap) (last ++ [container.closing]) texts ++ rest)) =
      resume (container.closed parts) rest := by
  rw [resume_blanks hgap.1, separated_append, List.append_assoc, List.singleton_append]
  cases h with
  | nil => exact resume_closing hlast container.step_start rest
  | @cons text part texts parts hpart hparts =>
      have hends := container.valueEnds_gap hlast rest
      have hclosed := container.step_after (parts.reverse ++ [part])
      rw [List.reverse_append, List.reverse_reverse] at hclosed
      calc resume container.start
            (text ++ furtherParts gap texts (last ++ container.closing :: rest))
          = resume (container.after [part])
              (furtherParts gap texts (last ++ container.closing :: rest)) :=
            hpart.1 _ (valueEnds_furtherParts hends texts)
        _ = resume (container.after (parts.reverse ++ [part]))
              (last ++ container.closing :: rest) := resume_furtherParts hgap hparts [part] hends
        _ = resume (container.closed (part :: parts)) rest := resume_closing hlast hclosed rest

end Container

/-! ### Values -/

/-- The machine takes a value next, and will hand it to the given containers. -/
inductive State.Awaits : State → List Frame → Prop
  | value (frames : List Frame) : Awaits (.value frames) frames
  | arrayStart (frames : List Frame) : Awaits (.arrayStart frames) (.element [] :: frames)

theorem State.Awaits.step {s : State} {frames : List Frame} (h : s.Awaits frames) {token : Token}
    (htoken : token ≠ .closeArr) : s.step token = startValue frames token := by
  cases h with
  | value => rfl
  | arrayStart frames =>
      cases token with
      | closeArr => exact absurd rfl htoken
      | _ => rfl

/-- Wherever a value may stand, the machine passes over the text and is handed the value. -/
def Reads (text : List Char) (v : Json) : Prop :=
  ∀ s frames, s.Awaits frames → Passes s (.complete v frames) text

theorem reads_scalar {text : List Char} {token : Token} {v : Json}
    (hread : ∀ rest, ValueEnds rest → Token.readFirst (text ++ rest) = some (token, rest))
    (htoken : token ≠ .closeArr)
    (hstart : ∀ frames, State.startValue frames token = some (.complete v frames)) :
    Reads text v := by
  intro s frames hs rest hr
  exact resume_token (hread rest hr) ((hs.step htoken).trans (hstart frames))

theorem reads_array {gap last : List Char} (hgap : IsGap gap) (hlast : IsGap last)
    {texts : List (List Char)} {items : List Json} (h : List.Forall₂ Reads texts items) :
    Reads ('[' :: (gap ++ separated (',' :: gap) (last ++ [']']) texts)) (.arr items) := by
  intro s frames hs rest _
  have hparts : List.Forall₂ (Container.array frames).ReadsPart texts items :=
    h.imp fun text v hv => ⟨hv _ _ (.arrayStart frames), fun done => hv _ _ (.value _)⟩
  calc resume s ('[' :: (gap ++ separated (',' :: gap) (last ++ [']']) texts) ++ rest)
      = resume (.arrayStart frames)
          (gap ++ separated (',' :: gap) (last ++ [']']) texts ++ rest) :=
        resume_token rfl (hs.step nofun)
    _ = resume (.complete (.arr items) frames) rest := by
        rw [List.append_assoc]
        exact Container.resume_separated hgap hlast hparts rest

/-- A key, a colon and a value make up a member, at the beginning and behind a comma. -/
theorem readsPart_member {text space : List Char} {v : Json}
    (hspace : ∀ c ∈ space, Text.isBlank c = true) (h : Reads text v) (key : String)
    (frames : List Frame) :
    (Container.object frames).ReadsPart (writeString (some key) ++ ':' :: (space ++ text))
      (some key, v) := by
  have hvalue : ∀ members : List (Option String × Json),
      Passes (.afterKey (some key) members frames) (.afterMember ((some key, v) :: members) frames)
        (':' :: (space ++ text)) := by
    intro members rest hr
    calc resume (.afterKey (some key) members frames) (':' :: (space ++ text) ++ rest)
        = resume (.value (.member members (some key) :: frames)) (space ++ (text ++ rest)) := by
          rw [← List.append_assoc]
          exact resume_token rfl rfl
      _ = resume (.afterMember ((some key, v) :: members) frames) rest := by
          rw [resume_blanks hspace]
          exact h _ _ (.value _) rest hr
  have hkey : ∀ rest, Token.readFirst
      (writeString (some key) ++ ':' :: (space ++ text) ++ rest) =
        some (.str (some key), ':' :: (space ++ text) ++ rest) := by
    intro rest
    rw [List.append_assoc]
    exact Token.readFirst_text key _
  constructor
  · intro rest hr
    rw [resume_token (hkey rest) rfl]
    exact hvalue [] rest hr
  · intro done rest hr
    rw [resume_token (hkey rest) rfl]
    exact hvalue done rest hr

theorem reads_object {gap last : List Char} (hgap : IsGap gap) (hlast : IsGap last)
    {texts : List (List Char)} {members : List (Option String × Json)}
    (h : ∀ frames, List.Forall₂ (Container.object frames).ReadsPart texts members) :
    Reads ('\x7b' :: (gap ++ separated (',' :: gap) (last ++ ['\x7d']) texts)) (.obj members) := by
  intro s frames hs rest _
  calc resume s ('\x7b' :: (gap ++ separated (',' :: gap) (last ++ ['\x7d']) texts) ++ rest)
      = resume (.objectStart frames)
          (gap ++ separated (',' :: gap) (last ++ ['\x7d']) texts ++ rest) :=
        resume_token rfl (hs.step nofun)
    _ = resume (.complete (.obj members) frames) rest := by
        rw [List.append_assoc]
        exact Container.resume_separated hgap hlast (h frames) rest

/-! ### Whole values -/

/-- A value whose numerals are such as JSON has, and whose strings all denote texts. -/
inductive Readable : Json → Prop
  | null : Readable .null
  | bool (b : Bool) : Readable (.bool b)
  | text (s : String) : Readable (.text s)
  | num {n : Decimal.Numeral} (hproper : n.Proper)
      (hzero : Token.ofNumeral? n = some (.num n)) : Readable (.num n)
  | arr {items : List Json} (h : ∀ v ∈ items, Readable v) : Readable (.arr items)
  | record {members : List (String × Json)} (h : ∀ m ∈ members, Readable m.2) :
      Readable (.record members)

theorem reads_null : Reads writeNull .null :=
  reads_scalar (fun _ _ => rfl) nofun fun _ => rfl

theorem reads_bool (b : Bool) : Reads (writeBool b) (.bool b) := by
  have hread : ∀ rest, ValueEnds rest →
      Token.readFirst (writeBool b ++ rest) = some (.bool b, rest) := by
    intro rest _
    cases b <;> rfl
  exact reads_scalar hread nofun fun _ => rfl

theorem reads_text (s : String) : Reads (writeString (some s)) (.text s) :=
  reads_scalar (fun rest _ => Token.readFirst_text s rest) nofun fun _ => rfl

theorem reads_num {n : Decimal.Numeral} (hproper : n.Proper)
    (hzero : Token.ofNumeral? n = some (.num n)) : Reads n.render (.num n) :=
  reads_scalar (fun _ hr => Token.readFirst_render hproper hzero hr) nofun fun _ => rfl

theorem writeCompactItems_eq (items : List Json) :
    writeCompactItems items = items.map writeCompact := by
  induction items with
  | nil => rfl
  | cons v vs ih => rw [writeCompactItems, ih, List.map_cons]

theorem writeCompactMembers_eq (members : List (Option String × Json)) :
    writeCompactMembers members =
      members.map fun m => writeString m.1 ++ ':' :: writeCompact m.2 := by
  induction members with
  | nil => rfl
  | cons m rest ih => rw [writeCompactMembers, ih, List.map_cons]

theorem writePrettyItems_eq (depth : Nat) (items : List Json) :
    writePrettyItems depth items = items.map (writePretty depth) := by
  induction items with
  | nil => rfl
  | cons v vs ih => rw [writePrettyItems, ih, List.map_cons]

theorem writePrettyMembers_eq (depth : Nat) (members : List (Option String × Json)) :
    writePrettyMembers depth members =
      members.map fun m => writeString m.1 ++ ':' :: ' ' :: writePretty depth m.2 := by
  induction members with
  | nil => rfl
  | cons m rest ih => rw [writePrettyMembers, ih, List.map_cons]

/-- Members whose values are read are read as a whole, with or without a blank behind the colon. -/
theorem readsParts_members {space : List Char} (hspace : ∀ c ∈ space, Text.isBlank c = true)
    (write : Json → List Char) {members : List (String × Json)}
    (h : ∀ m ∈ members, Reads (write m.2) m.2) (frames : List Frame) :
    List.Forall₂ (Container.object frames).ReadsPart
      ((members.map fun m => (some m.1, m.2)).map fun m =>
        writeString m.1 ++ ':' :: (space ++ write m.2))
      (members.map fun m => (some m.1, m.2)) := by
  rw [List.forall₂_map_left_iff, List.forall₂_same]
  intro m hm
  obtain ⟨⟨key, v⟩, hmem, rfl⟩ := List.mem_map.1 hm
  exact readsPart_member hspace (h _ hmem) key frames

theorem reads_compact {v : Json} (h : v.Readable) : Reads (writeCompact v) v := by
  induction h with
  | null => exact reads_null
  | bool b => exact reads_bool b
  | text s => exact reads_text s
  | num hproper hzero => exact reads_num hproper hzero
  | @arr items _ ih =>
      have hitems : List.Forall₂ Reads (items.map writeCompact) items :=
        List.forall₂_map_left_iff.2 (List.forall₂_same.2 ih)
      rw [writeCompact, writeCompactItems_eq]
      exact reads_array isGap_nil isGap_nil hitems
  | @record members _ ih =>
      have hspace : ∀ c ∈ ([] : List Char), Text.isBlank c = true := nofun
      rw [record, writeCompact, writeCompactMembers_eq]
      exact reads_object isGap_nil isGap_nil (readsParts_members hspace writeCompact ih)

theorem reads_pretty {v : Json} (h : v.Readable) (depth : Nat) :
    Reads (writePretty depth v) v := by
  induction h generalizing depth with
  | null => exact reads_null
  | bool b => exact reads_bool b
  | text s => exact reads_text s
  | num hproper hzero => exact reads_num hproper hzero
  | @arr items _ ih =>
      have hitems : List.Forall₂ Reads (items.map (writePretty (depth + 1))) items :=
        List.forall₂_map_left_iff.2 (List.forall₂_same.2 fun v hv => ih v hv (depth + 1))
      rw [writePretty, writePrettyItems_eq]
      cases items with
      | nil => exact reads_array isGap_nil isGap_nil .nil
      | cons v vs => exact reads_array (isGap_newLine _) (isGap_newLine _) hitems
  | @record members _ ih =>
      have hspace : ∀ c ∈ [' '], Text.isBlank c = true := List.forall_mem_singleton.2 rfl
      have hmembers := readsParts_members hspace (writePretty (depth + 1)) fun m hm =>
        ih m hm (depth + 1)
      rw [record, writePretty, writePrettyMembers_eq]
      cases members with
      | nil => exact reads_object isGap_nil isGap_nil fun frames => .nil
      | cons m rest => exact reads_object (isGap_newLine _) (isGap_newLine _) hmembers

/-- A text that is passed over as a value, and nothing else, is read as the value. -/
theorem read_of_reads {text : List Char} {v : Json} (h : Reads text v) :
    read? (String.ofList text) = some v := by
  have hall := h _ _ (.value []) [] valueEnds_nil
  rw [List.append_nil] at hall
  have hend : resume (.done v) [] = some v := by
    rw [resume, Token.readAll]
    rfl
  rw [read?, String.toList_ofList]
  exact hall.trans hend

theorem read_compact {v : Json} (h : v.Readable) : read? v.compact = some v :=
  read_of_reads (reads_compact h)

theorem read_pretty {v : Json} (h : v.Readable) : read? v.pretty = some v :=
  read_of_reads (reads_pretty h 0)

end Minispec.Json
