import Blueprints.Characters.Runs

/-!
# Simple case folding

Characters that differ only in case fall into small groups: most are pairs of an upper and a lower
form, some hold three or four characters.  A set is closed under folding when it holds all or none
of each group.
-/

namespace Blueprints.Characters

/-- Pairs in arithmetic sequences.  Four numbers describe one sequence: the first member, how many
pairs, the step from one pair to the next, and the distance to the partner. -/
def foldingSequences : String :=
  "41 A 1 20 4C 8 2 20 4D 3 2 20 55 3 2 20 C0 10 2 20 C1 2 2 20 C7 8 2 20 D9 3 2 20 DF 1 1
  1DBF FF 1 1 79 100 18 2 1 132 3 2 1 139 8 2 1 14A 17 2 1 179 3 2 1 180 1 1 C3 181 1 1 D2
  182 2 2 1 186 1 1 CE 187 1 1 1 189 2 1 CD 18B 1 1 1 18E 1 1 4F 18F 1 1 CA 190 1 1 CB 191 1
  1 1 193 1 1 CD 194 1 1 CF 195 1 1 61 196 1 1 D3 197 1 1 D1 198 1 1 1 19A 1 1 A3 19B 1 1
  A641 19C 1 1 D3 19D 1 1 D5 19E 1 1 82 19F 1 1 D6 1A0 3 2 1 1A6 1 1 DA 1A7 1 1 1 1A9 1 1 DA
  1AC 1 1 1 1AE 1 1 DA 1AF 1 1 1 1B1 2 1 D9 1B3 2 2 1 1B7 1 1 DB 1B8 1 1 1 1BC 1 1 1 1BF 1 1
  38 1CD 8 2 1 1DE 9 2 1 1F4 1 1 1 1F8 14 2 1 222 9 2 1 23A 1 1 2A2B 23B 1 1 1 23E 1 1 2A28
  23F 2 1 2A3F 241 1 1 1 244 1 1 45 245 1 1 47 246 5 2 1 250 1 1 2A1F 251 1 1 2A1C 252 1 1
  2A1E 25C 1 1 A54F 261 1 1 A54B 264 1 1 A567 265 1 1 A528 266 1 1 A544 26A 1 1 A544 26B 1 1
  29F7 26C 1 1 A541 271 1 1 29FD 27D 1 1 29E7 282 1 1 A543 287 1 1 A52A 29D 1 1 A515 29E 1 1
  A512 370 2 2 1 376 1 1 1 37B 3 1 82 37F 1 1 74 386 1 1 26 388 3 1 25 38C 1 1 40 38E 2 1 3F
  390 1 1 1C43 391 2 2 20 394 2 2 20 397 1 1 20 39B 3 2 20 39E 1 1 20 3A4 2 1 20 3A7 2 1 20
  3AA 2 1 20 3B0 1 1 1C33 3CF 1 1 8 3D8 C 2 1 3F2 1 1 7 3F7 1 1 1 3FA 1 1 1 400 10 1 50 410 2
  1 20 413 7 2 20 416 4 2 20 420 1 1 20 423 7 1 20 42B 5 1 20 460 1 1 1 464 F 2 1 48A 1B 2 1
  4C0 1 1 F 4C1 7 2 1 4D0 30 2 1 531 26 1 30 10A0 26 1 1C60 10C7 1 1 1C60 10CD 1 1 1C60 10D0
  2B 1 BC0 10FD 3 1 BC0 13A0 50 1 97D0 13F0 6 1 8 1C89 1 1 1 1D79 1 1 8A04 1D7D 1 1 EE6 1D8E
  1 1 8A38 1E00 30 2 1 1E62 1A 2 1 1EA0 30 2 1 1F00 8 1 8 1F10 6 1 8 1F20 8 1 8 1F30 8 1 8
  1F40 6 1 8 1F51 4 2 8 1F60 8 1 8 1F70 2 1 4A 1F72 4 1 56 1F76 2 1 64 1F78 2 1 80 1F7A 2 1
  70 1F7C 2 1 7E 1F80 8 1 8 1F90 8 1 8 1FA0 8 1 8 1FB0 2 1 8 1FB3 1 1 9 1FC3 1 1 9 1FD0 2 1 8
  1FE0 2 1 8 1FE5 1 1 7 1FF3 1 1 9 2132 1 1 1C 2160 10 1 10 2183 1 1 1 24B6 1A 1 1A 2C00 30 1
  30 2C60 1 1 1 2C67 3 2 1 2C72 1 1 1 2C75 1 1 1 2C80 32 2 1 2CEB 2 2 1 2CF2 1 1 1 A640 5 2 1
  A64C 11 2 1 A680 E 2 1 A722 7 2 1 A732 1F 2 1 A779 2 2 1 A77E 5 2 1 A78B 1 1 1 A790 2 2 1
  A794 1 1 30 A796 A 2 1 A7B3 1 1 3A0 A7B4 8 2 1 A7C7 2 2 1 A7CC 1 1 1 A7D0 1 1 1 A7D6 3 2 1
  A7F5 1 1 1 FB05 1 1 1 FF21 1A 1 20 10400 28 1 28 104B0 24 1 28 10570 13 2 27 10571 5 2 27
  1057D 7 2 27 1058D 3 2 27 10595 1 1 27 10C80 33 1 40 10D50 16 1 20 118A0 20 1 20 16E40 20 1
  20 1E900 22 1 22"

/-- The groups with more than two members. -/
def foldingGroups : List (List Nat) :=
  [[0x4B, 0x6B, 0x212A], [0x53, 0x73, 0x17F], [0xB5, 0x39C, 0x3BC], [0xC5, 0xE5, 0x212B],
   [0x1C4, 0x1C5, 0x1C6], [0x1C7, 0x1C8, 0x1C9], [0x1CA, 0x1CB, 0x1CC], [0x1F1, 0x1F2, 0x1F3],
   [0x345, 0x399, 0x3B9, 0x1FBE], [0x392, 0x3B2, 0x3D0], [0x395, 0x3B5, 0x3F5],
   [0x398, 0x3B8, 0x3D1, 0x3F4], [0x39A, 0x3BA, 0x3F0], [0x3A0, 0x3C0, 0x3D6],
   [0x3A1, 0x3C1, 0x3F1], [0x3A3, 0x3C2, 0x3C3], [0x3A6, 0x3C6, 0x3D5], [0x3A9, 0x3C9, 0x2126],
   [0x412, 0x432, 0x1C80], [0x414, 0x434, 0x1C81], [0x41E, 0x43E, 0x1C82], [0x421, 0x441, 0x1C83],
   [0x422, 0x442, 0x1C84, 0x1C85], [0x42A, 0x44A, 0x1C86], [0x462, 0x463, 0x1C87],
   [0x1C88, 0xA64A, 0xA64B], [0x1E60, 0x1E61, 0x1E9B]]

def pairsOf : List Nat → List (List Nat)
  | first :: count :: step :: distance :: rest =>
    (List.range count).map (fun i => [first + i * step, first + i * step + distance])
      ++ pairsOf rest
  | _ => []

def caseGroups : List (List Nat) := pairsOf (readHex foldingSequences) ++ foldingGroups

/-- Does any other character differ from this one in case only? -/
def hasCase (n : Nat) : Bool := caseGroups.any fun group => group.contains n

/-- The set with, for each member, all characters that differ from it in case only. -/
def foldCase (s : CharClass) : CharClass :=
  let added := (caseGroups.filter fun group => group.any s.contains && !group.all s.contains).flatten
  s.union (.ofPoints added)

def foldAsciiCase (s : CharClass) : CharClass :=
  let upper := (List.range 26).map (· + 65)
  let added := upper.filterMap fun n =>
    if s.contains n && !s.contains (n + 32) then some (n + 32)
    else if s.contains (n + 32) && !s.contains n then some n
    else none
  s.union (.ofPoints added)

end Blueprints.Characters
