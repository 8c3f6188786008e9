import Minispec.Proofs.DirectConversion
import Minispec.Proofs.NotationRoundTrip

/-!
The grammar of the notation, without regard to how it is read. Every part of it relates a text to
what its beginning stands for and to what is left of it: `Symbol cs name rest` says that `cs` is a
symbol followed by `rest`. No rule asks for the longest lexeme; where one ends is settled by what
may follow it.
-/

namespace Minispec.Notation.Grammar

/-! ### Strings and symbols -/

/-- The letters after a backslash, with the characters that they stand for. -/
def escapes : List (Char × Char) :=
  [('\\', '\\'), ('"', '"'), ('n', '\n'), ('t', '\t'), ('r', '\r')]

/-- The inside of a string and its closing quote. -/
inductive StringBody : List Char → List Char → List Char → Prop
  | close (rest : List Char) : StringBody ('"' :: rest) [] rest
  | plain {c : Char} {cs value rest : List Char} (hquote : c ≠ '"') (hbackslash : c ≠ '\\')
      (h : StringBody cs value rest) : StringBody (c :: cs) (c :: value) rest
  | escape {letter c : Char} {cs value rest : List Char} (hc : (letter, c) ∈ escapes)
      (h : StringBody cs value rest) : StringBody ('\\' :: letter :: cs) (c :: value) rest

inductive Quoted : List Char → String → List Char → Prop
  | mk {cs value rest : List Char} (h : StringBody cs value rest) :
      Quoted ('"' :: cs) (String.ofList value) rest

inductive Symbol : List Char → String → List Char → Prop
  | quoted {cs rest : List Char} {name : String} (h : Quoted cs name rest) :
      Symbol (':' :: cs) name rest
  | bare {name : List Char} (hsome : name ≠ []) (hname : ∀ c ∈ name, isSymbolChar c = true)
      (rest : List Char) : Symbol (':' :: (name ++ rest)) (String.ofList name) rest

/-! ### Numbers -/

inductive Fraction : List Char → List Char → List Char → Prop
  | absent (rest : List Char) : Fraction rest [] rest
  | present {digits : List Char} (h : Decimal.IsDigits digits) (rest : List Char) :
      Fraction ('.' :: (digits ++ rest)) digits rest

inductive Exponent : List Char → Option Decimal.Exponent → List Char → Prop
  | absent (rest : List Char) : Exponent rest none rest
  | present {letter : Char} {digits : List Char} (hletter : letter = 'e' ∨ letter = 'E')
      (sign : Option Decimal.Sign) (h : Decimal.IsDigits digits) (rest : List Char) :
      Exponent (letter :: (sign.toList.map Decimal.Sign.mark ++ (digits ++ rest)))
        (some ⟨sign, digits⟩) rest

inductive Unsigned (negative : Bool) : List Char → Decimal.Numeral → List Char → Prop
  | mk {whole fraction after beyond rest : List Char} {exponent : Option Decimal.Exponent}
      (hwhole : Decimal.IsDigits whole) (hfraction : Fraction after fraction beyond)
      (hexponent : Exponent beyond exponent rest) :
      Unsigned negative (whole ++ after) ⟨negative, whole, fraction, exponent⟩ rest

inductive Number : List Char → Decimal.Numeral → List Char → Prop
  | positive {cs rest : List Char} {n : Decimal.Numeral} (h : Unsigned false cs n rest) :
      Number cs n rest
  | negative {cs rest : List Char} {n : Decimal.Numeral} (h : Unsigned true cs n rest) :
      Number ('-' :: cs) n rest

/-! ### Tokens -/

/-- Only an integer that fits into 64 bits is a number without a point and an exponent. -/
inductive Atom : List Char → Item → List Char → Prop
  | nil (rest : List Char) : Atom ('n' :: 'i' :: 'l' :: rest) (.tree .empty) rest
  | symbol {cs rest : List Char} {name : String} (h : Symbol cs name rest) :
      Atom cs (.tree (.sym name)) rest
  | string {cs rest : List Char} {text : String} (h : Quoted cs text rest) :
      Atom cs (.tree (.text text)) rest
  | integer {cs rest : List Char} {n : Decimal.Numeral} {value : Int64} (h : Number cs n rest)
      (hwhole : n.isWhole = true) (hvalue : value.toInt = n.toInt) :
      Atom cs (.tree (.int value)) rest
  | float {cs rest : List Char} {n : Decimal.Numeral} (h : Number cs n rest)
      (hwhole : n.isWhole = false) : Atom cs (.float n.toBinary64) rest

inductive Blanks : List Char → List Char → Prop
  | none (rest : List Char) : Blanks rest rest
  | more {c : Char} {cs rest : List Char} (hc : Text.isBlank c = true) (h : Blanks cs rest) :
      Blanks (c :: cs) rest

inductive Lexeme : List Char → Token → List Char → Prop
  | opening {cs after rest : List Char} {tag : String} (hblanks : Blanks cs after)
      (h : Symbol after tag rest) : Lexeme ('s' :: '(' :: cs) (.opening tag) rest
  | comma (rest : List Char) : Lexeme (',' :: rest) .comma rest
  | close (rest : List Char) : Lexeme (')' :: rest) .close rest
  | atom {cs rest : List Char} {item : Item} (h : Atom cs item rest) :
      Lexeme cs (.atom item) rest

/-- A token with the blanks before it. -/
inductive Spaced : List Char → Token → List Char → Prop
  | mk {cs after rest : List Char} {token : Token} (hblanks : Blanks cs after)
      (h : Lexeme after token rest) : Spaced cs token rest

/-! ### Trees -/

/-- The children that a node of each tag has, and the tree that it stands for. A floating point
number has its only place in a `lit` node. -/
inductive Shape : String → List Item → Tree → Prop
  | nil : Shape "nil" [] .nil
  | selfRef : Shape "self" [] .selfRef
  | symbolLit (name : String) : Shape "lit" [.tree (.sym name)] (.lit (.symbol name))
  | integerLit (value : Int64) : Shape "lit" [.tree (.int value)] (.lit (.integer value))
  | floatLit (value : Binary64) : Shape "lit" [.float value] (.lit (.float value))
  | str (text : String) : Shape "str" [.tree (.text text)] (.str text)
  | const (name : String) : Shape "const" [.tree (.sym name)] (.const name)
  | colon3 (name : String) : Shape "colon3" [.tree (.sym name)] (.colon3 name)
  | colon2 (scope : Tree) (name : String) :
      Shape "colon2" [.tree scope, .tree (.sym name)] (.colon2 scope name)
  | call {receiver : Option Tree} (h : receiver ≠ some .empty) (method : String)
      (args : List Tree) :
      Shape "call" (.tree (receiver.getD .empty) :: .tree (.sym method) :: args.map .tree)
        (.call receiver method args)
  | iter (head params : Tree) (body : Option Tree) :
      Shape "iter" (.tree head :: .tree params :: body.toList.map .tree) (.iter head params body)
  | classDecl {parent : Option Tree} (h : parent ≠ some .empty) (name : Tree)
      (body : List Tree) :
      Shape "class" (.tree name :: .tree (parent.getD .empty) :: body.map .tree)
        (.classDecl name parent body)
  | block (statements : List Tree) : Shape "block" (statements.map .tree) (.block statements)
  | hash (entries : List Tree) : Shape "hash" (entries.map .tree) (.hash entries)
  | array (elements : List Tree) : Shape "array" (elements.map .tree) (.array elements)
  | node {tag : String} (h : tag ∉ typedTags) (children : List Tree) :
      Shape tag (children.map .tree) (.node tag children)

mutual

/-- An atom, or a node with all that is inside it. -/
inductive Child : List Char → Item → List Char → Prop
  | atom {cs rest : List Char} {item : Item} (h : Spaced cs (.atom item) rest) :
      Child cs item rest
  | node {cs after rest : List Char} {tag : String} {items : List Item} {t : Tree}
      (hopen : Spaced cs (.opening tag) after) (hchildren : Children after items rest)
      (hshape : Shape tag items t) : Child cs (.tree t) rest

/-- The children of a node behind its tag, a comma before each, and the end of the node. -/
inductive Children : List Char → List Item → List Char → Prop
  | close {cs rest : List Char} (h : Spaced cs .close rest) : Children cs [] rest
  | more {cs after beyond rest : List Char} {item : Item} {items : List Item}
      (hcomma : Spaced cs .comma after) (hchild : Child after item beyond)
      (hchildren : Children beyond items rest) : Children cs (item :: items) rest

end

/-- One tree, with nothing but white space behind it. -/
inductive Root : List Char → Tree → Prop
  | mk {cs rest : List Char} {t : Tree} (h : Child cs (.tree t) rest)
      (hrest : ∀ c ∈ rest, Text.isWhiteSpace c = true) : Root cs t

/-! ### Shapes and built nodes -/

theorem toTree_ok_iff {item : Item} {t : Tree} : item.toTree = .ok t ↔ item = .tree t := by
  cases item with
  | tree u => exact ⟨fun h => congrArg Item.tree (Except.ok.inj h), fun h => by cases h; rfl⟩
  | float x => exact ⟨nofun, nofun⟩

theorem toSymbol_ok_iff {tag name : String} {item : Item} :
    item.toSymbol tag = .ok name ↔ item = .tree (.sym name) := by
  constructor
  · intro h
    unfold Item.toSymbol at h
    split at h
    · cases h
      rfl
    · cases h
  · intro h
    rw [h]
    rfl

theorem toOption_ok_iff {item : Item} {o : Option Tree} :
    item.toOption = .ok o ↔ o ≠ some .empty ∧ item = .tree (o.getD .empty) := by
  constructor
  · intro h
    obtain ⟨t, ht, h⟩ := bind_ok_iff.1 h
    rw [toTree_ok_iff.1 ht]
    split at h
    · cases h
      exact ⟨nofun, rfl⟩
    · next hempty =>
        cases h
        exact ⟨fun hsome => hempty (Option.some.inj hsome), rfl⟩
  · intro h
    obtain ⟨hsome, rfl⟩ := h
    exact toOption_getD hsome

theorem toTrees_ok_iff {items : List Item} {ts : List Tree} :
    toTrees items = .ok ts ↔ items = ts.map .tree := by
  constructor
  · intro h
    have hall := mapM_ok_iff.1 h
    induction hall with
    | nil => rfl
    | cons hitem _ ih =>
        rw [List.map_cons, toTree_ok_iff.1 hitem, ih (mapM_ok_iff.2 ‹_›)]
  · intro h
    rw [h]
    exact toTrees_map ts

theorem buildLit_ok {item : Item} {t : Tree} (h : buildLit item = .ok t) :
    Shape "lit" [item] t := by
  unfold buildLit at h
  split at h <;> cases h
  · exact .symbolLit _
  · exact .integerLit _
  · exact .floatLit _

theorem buildStr_ok {item : Item} {t : Tree} (h : buildStr item = .ok t) :
    Shape "str" [item] t := by
  unfold buildStr at h
  split at h <;> cases h
  exact .str _

/-- One case per tag: what the checks of its children leave over is its shape. -/
theorem shape_of_build {tag : String} {items : List Item} {t : Tree}
    (h : build tag items = .ok t) : Shape tag items t := by
  unfold build at h
  split at h
  · split at h <;> cases h
    exact .nil
  · split at h <;> cases h
    exact .selfRef
  · split at h
    · exact buildLit_ok h
    · cases h
  · split at h
    · exact buildStr_ok h
    · cases h
  · split at h
    · simp only [bind_ok_iff, toSymbol_ok_iff] at h
      obtain ⟨name, rfl, ⟨⟩⟩ := h
      exact .const name
    · cases h
  · split at h
    · simp only [bind_ok_iff, toSymbol_ok_iff] at h
      obtain ⟨name, rfl, ⟨⟩⟩ := h
      exact .colon3 name
    · cases h
  · split at h
    · simp only [bind_ok_iff, toTree_ok_iff, toSymbol_ok_iff] at h
      obtain ⟨scope, rfl, name, rfl, ⟨⟩⟩ := h
      exact .colon2 scope name
    · cases h
  · split at h
    · simp only [bind_ok_iff, toOption_ok_iff, toSymbol_ok_iff, toTrees_ok_iff] at h
      obtain ⟨receiver, ⟨hsome, rfl⟩, method, rfl, args, rfl, ⟨⟩⟩ := h
      exact .call hsome method args
    · cases h
  · split at h
    · simp only [bind_ok_iff, toTree_ok_iff] at h
      obtain ⟨head, rfl, params, rfl, ⟨⟩⟩ := h
      exact .iter head params none
    · simp only [bind_ok_iff, toTree_ok_iff] at h
      obtain ⟨head, rfl, params, rfl, body, rfl, ⟨⟩⟩ := h
      exact .iter head params (some body)
    · cases h
  · split at h
    · simp only [bind_ok_iff, toTree_ok_iff, toOption_ok_iff, toTrees_ok_iff] at h
      obtain ⟨name, rfl, parent, ⟨hsome, rfl⟩, body, rfl, ⟨⟩⟩ := h
      exact .classDecl hsome name body
    · cases h
  · simp only [bind_ok_iff, toTrees_ok_iff] at h
    obtain ⟨statements, rfl, ⟨⟩⟩ := h
    exact .block statements
  · simp only [bind_ok_iff, toTrees_ok_iff] at h
    obtain ⟨entries, rfl, ⟨⟩⟩ := h
    exact .hash entries
  · simp only [bind_ok_iff, toTrees_ok_iff] at h
    obtain ⟨elements, rfl, ⟨⟩⟩ := h
    exact .array elements
  · simp only [bind_ok_iff, toTrees_ok_iff] at h
    obtain ⟨children, rfl, ⟨⟩⟩ := h
    refine .node ?_ children
    simp only [typedTags, List.mem_cons, List.not_mem_nil, or_false, not_or]
    and_intros <;> assumption

theorem build_of_shape {tag : String} {items : List Item} {t : Tree} (h : Shape tag items t) :
    build tag items = .ok t := by
  cases h with
  | nil | selfRef | symbolLit _ | integerLit _ | floatLit _ | str _ | const _ | colon3 _
  | colon2 _ _ => rfl
  | call hsome method args => exact build_call hsome method args
  | iter head params body => exact build_iter head params body
  | classDecl hsome name body => exact build_class hsome name body
  | block ts | hash ts | array ts =>
      simp only [build, toTrees_map]
      rfl
  | node htag children => exact build_node htag children

/-! ### Nesting -/

end Grammar

/-- How deep nodes are nested in a child. -/
def Item.nesting : Item → Nat
  | .tree t => t.nesting
  | .float _ => 0

def itemsNesting : List Item → Nat
  | [] => 0
  | item :: items => max item.nesting (itemsNesting items)

theorem itemsNesting_map (ts : List Tree) :
    itemsNesting (ts.map .tree) = Tree.listNesting ts := by
  induction ts with
  | nil => rfl
  | cons t ts ih =>
      simp only [List.map_cons, itemsNesting, ih]
      rfl

theorem nesting_getD (o : Option Tree) : (o.getD .empty).nesting = Tree.optionNesting o := by
  cases o <;> rfl

theorem listNesting_toList (o : Option Tree) :
    Tree.listNesting o.toList = Tree.optionNesting o := by
  cases o with
  | none => rfl
  | some t => exact Nat.max_zero _

/-- No child is lost in a node: the children that leave no tree behind are atoms. -/
theorem Grammar.Shape.nesting_eq {tag : String} {items : List Item} {t : Tree}
    (h : Shape tag items t) : t.nesting = 1 + itemsNesting items := by
  cases h <;>
    simp only [Tree.nesting, itemsNesting, Item.nesting, itemsNesting_map, listNesting_toList,
      nesting_getD] <;> omega

end Minispec.Notation
