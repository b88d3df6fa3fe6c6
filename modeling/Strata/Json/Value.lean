import Strata.Basic
import Strata.Decimal.Form

/-! JSON values, and their compact text. A number is kept as a whole number where it has the shape
of one and fits 64 bits, and as a binary64 number otherwise. The members of an object are in
ascending order of their keys, one for each key. -/
namespace Strata.Json

inductive Number where
  | whole (n : Int)
  | real (x : Float)

inductive Value where
  | null
  | bool (b : Bool)
  | number (n : Number)
  | string (s : String)
  | array (items : List Value)
  | object (members : List (String × Value))

/-- Puts a member at its place among ascending keys; an earlier member of the same key gives
way. -/
def insertMember (key : String) (v : Value) : List (String × Value) → List (String × Value)
  | [] => [(key, v)]
  | m :: rest =>
    if key < m.1 then (key, v) :: m :: rest
    else if key = m.1 then (key, v) :: rest
    else m :: insertMember key v rest

/-- The object with the given members, the last one of each key. -/
def Value.ofMembers (members : List (String × Value)) : Value :=
  .object (members.foldl (fun sorted m => insertMember m.1 m.2 sorted) [])

def Value.isNull : Value → Bool
  | .null => true
  | _ => false

def member? (members : List (String × Value)) (key : String) : Option Value :=
  (members.find? fun m => m.1 == key).map Prod.snd

theorem member?_insertMember_same (key : String) (v : Value) (l : List (String × Value)) :
    member? (insertMember key v l) key = some v := by
  induction l with
  | nil => simp [insertMember, member?]
  | cons m rest ih =>
    unfold insertMember
    split
    · simp [member?]
    · split
      · simp [member?]
      · rename_i _ h
        simpa [member?, Ne.symm h] using ih

theorem member?_insertMember_other {key k : String} (h : k ≠ key) (v : Value)
    (l : List (String × Value)) : member? (insertMember key v l) k = member? l k := by
  induction l with
  | nil => simp [insertMember, member?, Ne.symm h]
  | cons m rest ih =>
    unfold insertMember
    split
    · simp [member?, Ne.symm h]
    · split
      · rename_i _ hm
        subst hm
        simp [member?, Ne.symm h]
      · by_cases hk : m.1 = k
        · simp [member?, hk]
        · simpa [member?, hk] using ih

def Number.text : Number → String
  | .whole n => toString n
  | .real x => Decimal.json.render x

/-- The characters that may not stand for themselves between quotes: the quote, the backslash and
the controls below U+0020, five of which have a letter of their own. -/
def escapeChar (c : Char) : List Char :=
  if c = '"' then ['\\', '"']
  else if c = '\\' then ['\\', '\\']
  else if c = '\x08' then ['\\', 'b']
  else if c = '\t' then ['\\', 't']
  else if c = '\n' then ['\\', 'n']
  else if c = '\x0c' then ['\\', 'f']
  else if c = '\r' then ['\\', 'r']
  else if c.toNat < 0x20 then
    ['\\', 'u', '0', '0', Text.hexChar (c.toNat / 16), Text.hexChar (c.toNat % 16)]
  else [c]

def quote (s : String) : String :=
  "\"" ++ String.ofList (s.toList.flatMap escapeChar) ++ "\""

mutual

def Value.text : Value → String
  | .null => "null"
  | .bool b => if b then "true" else "false"
  | .number n => n.text
  | .string s => quote s
  | .array items => "[" ++ ",".intercalate (itemTexts items) ++ "]"
  | .object members => "\x7b" ++ ",".intercalate (memberTexts members) ++ "\x7d"

def itemTexts : List Value → List String
  | [] => []
  | v :: rest => v.text :: itemTexts rest

def memberTexts : List (String × Value) → List String
  | [] => []
  | (key, v) :: rest => (quote key ++ ":" ++ v.text) :: memberTexts rest

end

example : (Value.array [.number (.whole (-3)), .string "a\"\x01"]).text =
    "[-3,\"a\\\"\\u0001\"]" := by decide +kernel

end Strata.Json
