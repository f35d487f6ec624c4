/-
  CatalogIndex.Engine.Code — the code of scripts.

  The engines run scripts in a small language with assignments, conditions and loops.  Code is a
  tree here, and its text is made in one place, so that brackets close by construction and the
  parameters that a piece of code reads can be read off the tree.

  ## Main definitions

    * `Expr`, `Stmt` — expressions and statements;
    * `Stmt.textAll` — the text of statements, for one of the engines;
    * `Stmt.readsAll` — the names of the parameters that statements read.
-/
import CatalogIndex.Engine.Basic
import CatalogIndex.Text.Basic

namespace CatalogIndex.Engine

/-! ## §1. Trees. -/

/-- What stands between two operands. -/
inductive BinaryOp where
  | eq | ne | and | or | plus
  deriving DecidableEq

/-- An expression. -/
inductive Expr where
  | null
  | bool (b : Bool)
  | number (n : Nat)
  | text (s : String)
  /-- A list literal without elements. -/
  | emptyList
  /-- A new list that can grow. -/
  | newList
  | var (name : String)
  /-- The whole document. -/
  | document
  /-- What the document holds at a dotted path. -/
  | field (path : String)
  /-- All parameters. -/
  | params
  /-- A parameter with a fixed name. -/
  | param (name : String)
  /-- A parameter whose name is data. -/
  | paramOf (name : String)
  | member (inner : Expr) (name : String)
  | entry (inner key : Expr)
  | call (inner : Expr) (method : String)
  | callWith (inner : Expr) (method : String) (arg : Expr)
  | not (inner : Expr)
  | op (symbol : BinaryOp) (left right : Expr)
  | group (inner : Expr)
  /-- A condition on `name`. -/
  | function (name : String) (body : Expr)

/-- A statement. -/
inductive Stmt where
  | assign (target value : Expr)
  | declare (type name : String) (value : Expr)
  | run (e : Expr)
  | when (condition : Expr) (body : List Stmt)
  | choose (condition : Expr) (yes no : List Stmt)
  | each (name : String) (list : Expr) (body : List Stmt)
  | while (condition : Expr) (body : List Stmt)

/-! ## §2. Text. -/

/-- How a script reaches a dotted path of the document: by dots, or by brackets. -/
def fieldText (e : Engine) (path : String) : List Char :=
  match e with
  | .elasticsearch => "ctx._source.".toList ++ path.toList
  | .opensearch =>
    "ctx._source".toList
      ++ (Text.pieces '.' path.toList).flatMap fun key => ['[', '\''] ++ key ++ ['\'', ']']

def BinaryOp.text : BinaryOp → List Char
  | .eq => " == ".toList
  | .ne => " != ".toList
  | .and => " && ".toList
  | .or => " || ".toList
  | .plus => " + ".toList

/-- A text between single quotes. -/
def quotedText (s : String) : List Char := '\'' :: (s.toList ++ ['\''])

/-- The text of an expression. -/
def Expr.chars (e : Engine) : Expr → List Char
  | .null => "null".toList
  | .bool true => "true".toList
  | .bool false => "false".toList
  | .number n => Nat.toDigits 10 n
  | .text s => quotedText s
  | .emptyList => ['[', ']']
  | .newList => "new ArrayList()".toList
  | .var name => name.toList
  | .document => "ctx._source".toList
  | .field path => fieldText e path
  | .params => "params".toList
  | .param name => "params.".toList ++ name.toList
  | .paramOf name => "params[".toList ++ quotedText name ++ [']']
  | .member inner name => inner.chars e ++ '.' :: name.toList
  | .entry inner key => inner.chars e ++ '[' :: (key.chars e ++ [']'])
  | .call inner method => inner.chars e ++ '.' :: (method.toList ++ ['(', ')'])
  | .callWith inner method arg =>
    inner.chars e ++ '.' :: (method.toList ++ '(' :: (arg.chars e ++ [')']))
  | .not inner => '!' :: inner.chars e
  | .op symbol left right => left.chars e ++ symbol.text ++ right.chars e
  | .group inner => '(' :: (inner.chars e ++ [')'])
  | .function name body => name.toList ++ " -> ".toList ++ body.chars e

mutual

/-- The text of a statement. -/
def Stmt.chars (e : Engine) : Stmt → List Char
  | .assign target value => target.chars e ++ " = ".toList ++ value.chars e ++ [';']
  | .declare type name value =>
    type.toList ++ ' ' :: (name.toList ++ " = ".toList ++ value.chars e ++ [';'])
  | .run inner => inner.chars e ++ [';']
  | .when condition body =>
    "if (".toList ++ condition.chars e ++ ") ".toList ++ '{' :: ' ' :: (Stmt.charsAll e body ++ [' ', '}'])
  | .choose condition yes no =>
    "if (".toList ++ condition.chars e ++ ") ".toList ++ '{' :: ' ' :: (Stmt.charsAll e yes
      ++ ' ' :: '}' :: " else ".toList ++ '{' :: ' ' :: (Stmt.charsAll e no ++ [' ', '}']))
  | .each name list body =>
    "for (def ".toList ++ name.toList ++ " : ".toList ++ list.chars e ++ ") ".toList
      ++ '{' :: ' ' :: (Stmt.charsAll e body ++ [' ', '}'])
  | .while condition body =>
    "while (".toList ++ condition.chars e ++ ") ".toList
      ++ '{' :: ' ' :: (Stmt.charsAll e body ++ [' ', '}'])

/-- The text of statements, with blanks between them. -/
def Stmt.charsAll (e : Engine) : List Stmt → List Char
  | [] => []
  | [s] => s.chars e
  | s :: t :: rest => s.chars e ++ ' ' :: Stmt.charsAll e (t :: rest)

end

/-- The text of statements. -/
def Stmt.textAll (e : Engine) (body : List Stmt) : String := String.ofList (Stmt.charsAll e body)

/-! ## §3. Parameters. -/

/-- The names of the parameters that an expression reads. -/
def Expr.reads : Expr → List String
  | .param name | .paramOf name => [name]
  | .member inner _ | .call inner _ | .not inner | .group inner | .function _ inner => inner.reads
  | .entry a b | .callWith a _ b | .op _ a b => a.reads ++ b.reads
  | _ => []

mutual

/-- The names of the parameters that a statement reads. -/
def Stmt.reads : Stmt → List String
  | .assign target value => target.reads ++ value.reads
  | .declare _ _ value => value.reads
  | .run inner => inner.reads
  | .when condition body | .while condition body => condition.reads ++ Stmt.readsAll body
  | .choose condition yes no => condition.reads ++ Stmt.readsAll yes ++ Stmt.readsAll no
  | .each _ list body => list.reads ++ Stmt.readsAll body

/-- The names of the parameters that statements read. -/
def Stmt.readsAll : List Stmt → List String
  | [] => []
  | s :: rest => s.reads ++ Stmt.readsAll rest

end

end CatalogIndex.Engine
