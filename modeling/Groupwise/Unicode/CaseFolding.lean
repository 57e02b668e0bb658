import Groupwise.Unicode.Table

/-!
# Case folding

Characters that differ only in case form an orbit. Most orbits are pairs, and most pairs follow one
of two schemes: parallel alphabets, and neighbours taken two by two.
-/
namespace Groupwise.Unicode

open Text (CodePointSet)

namespace CaseFolding

/-- Pairs of characters. A word `41-4a+20` pairs each of a range with the one so much further on; a
word `100~12f` pairs neighbours. -/
def pairTable : List String := [
    "41-4a+20 4c-52+20 54-5a+20 c0-c4+20 c6-d6+20 d8-de+20 df+1dbf ff+79 100~12f 132~137 139~148",
    "14a~177 179~17e 180+c3 181+d2 182~185 186+ce 187~188 189-18a+cd 18b~18c 18e+4f 18f+ca 190+cb",
    "191~192 193+cd 194+cf 195+61 196+d3 197+d1 198~199 19a+a3 19b+a641 19c+d3 19d+d5 19e+82",
    "19f+d6 1a0~1a5 1a6+da 1a7~1a8 1a9+da 1ac~1ad 1ae+da 1af~1b0 1b1-1b2+d9 1b3~1b6 1b7+db",
    "1b8~1b9 1bc~1bd 1bf+38 1cd~1dc 1de~1ef 1f4~1f5 1f8~21f 222~233 23a+2a2b 23b~23c 23e+2a28",
    "23f-240+2a3f 241~242 244+45 245+47 246~24f 250+2a1f 251+2a1c 252+2a1e 25c+a54f 261+a54b",
    "264+a567 265+a528 266+a544 26a+a544 26b+29f7 26c+a541 271+29fd 27d+29e7 282+a543 287+a52a",
    "29d+a515 29e+a512 370~373 376~377 37b-37d+82 37f+74 386+26 388-38a+25 38c+40 38e-38f+3f",
    "390+1c43 391+20 393-394+20 396-397+20 39b+20 39d-39f+20 3a4-3a5+20 3a7-3a8+20 3aa-3ab+20",
    "3b0+1c33 3cf+8 3d8~3ef 3f2+7 3f7~3f8 3fa~3fb 400-40f+50 410-411+20 413+20 415-41d+20",
    "41f-420+20 423-429+20 42b-42f+20 460~461 464~481 48a~4bf 4c0+f 4c1~4ce 4d0~52f 531-556+30",
    "10a0-10c5+1c60 10c7+1c60 10cd+1c60 10d0-10fa+bc0 10fd-10ff+bc0 13a0-13ef+97d0 13f0-13f5+8",
    "1c89~1c8a 1d79+8a04 1d7d+ee6 1d8e+8a38 1e00~1e5f 1e62~1e95 1ea0~1eff 1f00-1f07+8 1f10-1f15+8",
    "1f20-1f27+8 1f30-1f37+8 1f40-1f45+8 1f51+8 1f53+8 1f55+8 1f57+8 1f60-1f67+8 1f70-1f71+4a",
    "1f72-1f75+56 1f76-1f77+64 1f78-1f79+80 1f7a-1f7b+70 1f7c-1f7d+7e 1f80-1f87+8 1f90-1f97+8",
    "1fa0-1fa7+8 1fb0-1fb1+8 1fb3+9 1fc3+9 1fd0-1fd1+8 1fe0-1fe1+8 1fe5+7 1ff3+9 2132+1c",
    "2160-216f+10 2183~2184 24b6-24cf+1a 2c00-2c2f+30 2c60~2c61 2c67~2c6c 2c72~2c73 2c75~2c76",
    "2c80~2ce3 2ceb~2cee 2cf2~2cf3 a640~a649 a64c~a66d a680~a69b a722~a72f a732~a76f a779~a77c",
    "a77e~a787 a78b~a78c a790~a793 a794+30 a796~a7a9 a7b3+3a0 a7b4~a7c3 a7c7~a7ca a7cc~a7cd",
    "a7d0~a7d1 a7d6~a7db a7f5~a7f6 fb05~fb06 ff21-ff3a+20 10400-10427+28 104b0-104d3+28",
    "10570-1057a+27 1057c-1058a+27 1058c-10592+27 10594-10595+27 10c80-10cb2+40 10d50-10d65+20",
    "118a0-118bf+20 16e40-16e5f+20 1e900-1e921+22"]

def orbitTable : List String := [
    "4b=6b=212a 53=73=17f b5=39c=3bc c5=e5=212b 1c4=1c5=1c6 1c7=1c8=1c9 1ca=1cb=1cc 1f1=1f2=1f3",
    "345=399=3b9=1fbe 392=3b2=3d0 395=3b5=3f5 398=3b8=3d1=3f4 39a=3ba=3f0 3a0=3c0=3d6 3a1=3c1=3f1",
    "3a3=3c2=3c3 3a6=3c6=3d5 3a9=3c9=2126 412=432=1c80 414=434=1c81 41e=43e=1c82 421=441=1c83",
    "422=442=1c84=1c85 42a=44a=1c86 462=463=1c87 1c88=a64a=a64b 1e60=1e61=1e9b"]

/-- The pairs of a parallel range. -/
def shifted (first last distance : Nat) : List (List Nat) :=
  (List.range (last + 1 - first)).map fun i => [first + i, first + i + distance]

def neighbours (first last : Nat) : List (List Nat) :=
  (List.range ((last + 1 - first) / 2)).map fun i => [first + 2 * i, first + 2 * i + 1]

def readPairs (word : List Char) : List (List Nat) :=
  match splitNumber word with
  | (first, '+' :: distance) => shifted first first (tableNumber distance)
  | (first, '~' :: last) => neighbours first (tableNumber last)
  | (first, '-' :: rest) =>
    match splitNumber rest with
    | (last, _ :: distance) => shifted first last (tableNumber distance)
    | (_, []) => []
  | (_, _) => []

def readOrbit (word : List Char) : List Nat :=
  ((String.ofList word).splitOn "=").map fun n => tableNumber n.toList

def orbits : List (List Nat) :=
  (tableWords pairTable).flatMap readPairs ++ (tableWords orbitTable).map readOrbit

def variants : CodePointSet := .ofCodes orbits.flatten

/-- A set with all variants of its members. -/
def fold (set : CodePointSet) : CodePointSet :=
  set.union (.ofCodes (orbits.filter (·.any set.containsCode)).flatten)

/-- A set with the variants of its members among the letters A to Z. -/
def foldBasic (set : CodePointSet) : CodePointSet :=
  set.union (.ofCodes ((shifted 0x41 0x5a 0x20).filter (·.any set.containsCode)).flatten)

end CaseFolding

end Groupwise.Unicode
