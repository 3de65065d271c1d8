import Gamebook.Json.Quote
import Gamebook.Value

/-!
Writing values as structured text. Elements are separated by a comma and a space, keys from their
values by a colon and a space; fields keep their order. Numbers that are not finite have no
notation of their own and are written as quoted words.
-/

namespace Gamebook

namespace Value

def writeDouble : Double → List Char
  | .nan => ['"', 'N', 'a', 'N', '"']
  | .infinite s =>
    Json.quote ((if s then ['-'] else []) ++ ['I', 'n', 'f', 'i', 'n', 'i', 't', 'y'])
  | x => x.chars

mutual

def write : Value → List Char
  | .null => ['n', 'u', 'l', 'l']
  | .bool true => ['t', 'r', 'u', 'e']
  | .bool false => ['f', 'a', 'l', 's', 'e']
  | .int i => (toString i).toList
  | .float x => writeDouble x
  | .text s => Json.quote s.toList
  | .list [] => ['[', ']']
  | .list (v :: rest) => '[' :: (write v ++ writeItems rest)
  | .object [] => ['\x7b', '\x7d']
  | .object ((k, v) :: rest) =>
    '\x7b' :: (Json.quote k.toList ++ ':' :: ' ' :: (write v ++ writeFields rest))
  | .objective o =>
    '\x7b' :: (Json.quote ['d', 'e', 's', 'c', 'r', 'i', 'p', 't', 'i', 'o', 'n'] ++ ':' :: ' ' ::
      (Json.quote o.description.toList ++
        (if o.completed then ", \"completed\": true".toList else []) ++ ['\x7d']))

/-- The later elements of a list, with its end. -/
def writeItems : List Value → List Char
  | [] => [']']
  | v :: rest => ',' :: ' ' :: (write v ++ writeItems rest)

/-- The later fields of an object, with its end. -/
def writeFields : List (String × Value) → List Char
  | [] => ['\x7d']
  | (k, v) :: rest =>
    ',' :: ' ' :: (Json.quote k.toList ++ ':' :: ' ' :: (write v ++ writeFields rest))

end

def json (v : Value) : String := String.ofList v.write

end Value

end Gamebook
