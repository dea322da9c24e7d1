import NetGauge.Text.Table

set_option autoImplicit false

/-! # Widths

How many cells of a screen a text fills. Most characters fill one cell; wide ones fill two, and marks
that go with the character before them fill none. Characters that are shown together as one emoji fill
two cells, so the width of a text is found from its end: each character is measured knowing what
follows it. -/

namespace NetGauge.Screen

open Text (Ranges)

/-! ## Single characters -/

/-- Characters that fill no cell. -/
def zeroRanges : Ranges := .ofText
    "ad 300-36f 483-489 591-5bd 5bf 5c1-5c2 5c4-5c5 5c7 605 610-61a 61c 64b-65f 670 6d6-6dc
     6df-6e4 6e7-6e8 6ea-6ed 70f 711 730-74a 7a6-7b0 7eb-7f3 7fd 816-819 81b-823 825-827 829-82d
     859-85b 890-891 897-89f 8ca-902 93a 93c 941-948 94d 951-957 962-963 981 9bc 9be 9c1-9c4 9cd
     9d7 9e2-9e3 9fe a01-a02 a3c a41-a42 a47-a48 a4b-a4d a51 a70-a71 a75 a81-a82 abc ac1-ac5
     ac7-ac8 acd ae2-ae3 afa-aff b01 b3c b3e-b3f b41-b44 b4d b55-b57 b62-b63 b82 bbe bc0 bcd bd7
     c00 c04 c3c c3e-c40 c46-c48 c4a-c4d c55-c56 c62-c63 c81 cbc cbf-cc0 cc2 cc6-cc8 cca-ccd
     cd5-cd6 ce2-ce3 d00-d01 d3b-d3c d3e d41-d44 d4d-d4e d57 d62-d63 d81 dca dcf dd2-dd4 dd6 ddf
     e31 e34-e3a e47-e4e eb1 eb4-ebc ec8-ece f18-f19 f35 f37 f39 f71-f7e f80-f84 f86-f87 f8d-f97
     f99-fbc fc6 102d-1030 1032-1037 1039-103a 103d-103e 1058-1059 105e-1060 1071-1074 1082
     1085-1086 108d 109d 1160-11ff 135d-135f 1712-1715 1732-1734 1752-1753 1772-1773 17b4-17b5
     17b7-17bd 17c6 17c9-17d3 17dd 180b-180f 1885-1886 18a9 1920-1922 1927-1928 1932 1939-193b
     1a17-1a18 1a1b 1a56 1a58-1a5e 1a60 1a62 1a65-1a6c 1a73-1a7c 1a7f 1ab0-1ace 1b00-1b03
     1b34-1b3d 1b42-1b44 1b6b-1b73 1b80-1b81 1ba2-1ba5 1ba8-1bad 1be6 1be8-1be9 1bed 1bef-1bf3
     1c2c-1c33 1c36-1c37 1cd0-1cd2 1cd4-1ce0 1ce2-1ce8 1ced 1cf4 1cf8-1cf9 1dc0-1dff 200b-200f
     202a-202e 2060-206f 20d0-20f0 2cef-2cf1 2de0-2dff 302a-302f 3099-309a 3164 a66f-a672
     a674-a67d a69e-a69f a6f0-a6f1 a802 a806 a80b a825-a826 a82c a8c4-a8c5 a8e0-a8f1 a8fa a8ff
     a926-a92d a947-a951 a953 a980-a982 a9b3 a9b6-a9b9 a9bc-a9bd a9c0 a9e5 aa29-aa2e aa31-aa32
     aa35-aa36 aa43 aa4c aa7c aab0 aab2-aab4 aab7-aab8 aabe-aabf aac1 aaec-aaed aaf6 abe5 abe8
     abed d7b0-d7c6 d7cb-d7fb fb1e fe00-fe0f fe20-fe2f feff ff9e-ffa0 fff0-fff8 101fd 102e0
     10376-1037a 10a01-10a03 10a05-10a06 10a0c-10a0f 10a38-10a3a 10a3f 10ae5-10ae6 10d24-10d27
     10d69-10d6d 10eab-10eac 10efc-10eff 10f46-10f50 10f82-10f85 11001 11038-11046 11070
     11073-11074 1107f-11081 110b3-110b6 110b9-110ba 110c2 11100-11102 11127-1112b 1112d-11134
     11173 11180-11181 111b6-111be 111c0 111c2-111c3 111c9-111cc 111cf 1122f-11231 11234-11237
     1123e 11241 112df 112e3-112ea 11300-11301 1133b-1133c 1133e 11340 1134d 11357 11366-1136c
     11370-11374 113b8 113bb-113c0 113c2 113c5 113c7-113c9 113ce-113d2 113e1-113e2 11438-1143f
     11442-11444 11446 1145e 114b0 114b3-114b8 114ba 114bd 114bf-114c0 114c2-114c3 115af
     115b2-115b5 115bc-115bd 115bf-115c0 115dc-115dd 11633-1163a 1163d 1163f-11640 116ab 116ad
     116b0-116b7 1171d 1171f 11722-11725 11727-1172b 1182f-11837 11839-1183a 11930 1193b-1193f
     11941 11943 119d4-119d7 119da-119db 119e0 11a01-11a0a 11a33-11a38 11a3b-11a3e 11a47
     11a51-11a56 11a59-11a5b 11a84-11a96 11a98-11a99 11c30-11c36 11c38-11c3d 11c3f 11c92-11ca7
     11caa-11cb0 11cb2-11cb3 11cb5-11cb6 11d31-11d36 11d3a 11d3c-11d3d 11d3f-11d47 11d90-11d91
     11d95 11d97 11ef3-11ef4 11f00-11f02 11f36-11f3a 11f40-11f42 11f5a 13440 13447-13455
     1611e-16129 1612d-1612f 16af0-16af4 16b30-16b36 16f4f 16f8f-16f92 16fe4 16ff0-16ff1
     1bc9d-1bc9e 1bca0-1bca3 1cf00-1cf2d 1cf30-1cf46 1d165-1d169 1d16d-1d182 1d185-1d18b
     1d1aa-1d1ad 1d242-1d244 1da00-1da36 1da3b-1da6c 1da75 1da84 1da9b-1da9f 1daa1-1daaf
     1e000-1e006 1e008-1e018 1e01b-1e021 1e023-1e024 1e026-1e02a 1e08f 1e130-1e136 1e2ae
     1e2ec-1e2ef 1e4ec-1e4ef 1e5ee-1e5ef 1e8d0-1e8d6 1e944-1e94a e0000-e0fff"

/-- Characters that fill two cells. -/
def wideRanges : Ranges := .ofText
    "1100-115f 17a4 231a-231b 2329-232a 23e9-23ec 23f0 23f3 25fd-25fe 2614-2615 2630-2637
     2648-2653 267f 268a-268f 2693 26a1 26aa-26ab 26bd-26be 26c4-26c5 26ce 26d4 26ea 26f2-26f3
     26f5 26fa 26fd 2705 270a-270b 2728 274c 274e 2753-2755 2757 2795-2797 27b0 27bf 2b1b-2b1c
     2b50 2b55 2e80-2e99 2e9b-2ef3 2f00-2fd5 2ff0-3029 3030-303e 3041-3096 309b-30ff 3105-312f
     3131-3163 3165-318e 3190-31e5 31ef-321e 3220-3247 3250-a48c a490-a4c6 a960-a97c ac00-d7a3
     f900-faff fe10-fe19 fe30-fe52 fe54-fe66 fe68-fe6b ff01-ff60 ffe0-ffe6 16fe0-16fe3
     17000-187f7 18800-18cd5 18cff-18d08 1aff0-1aff3 1aff5-1affb 1affd-1affe 1b000-1b122 1b132
     1b150-1b152 1b155 1b164-1b167 1b170-1b2fb 1d300-1d356 1d360-1d376 1f004 1f0cf 1f18e
     1f191-1f19a 1f200-1f202 1f210-1f23b 1f240-1f248 1f250-1f251 1f260-1f265 1f300-1f320
     1f32d-1f335 1f337-1f37c 1f37e-1f393 1f3a0-1f3ca 1f3cf-1f3d3 1f3e0-1f3f0 1f3f4 1f3f8-1f43e
     1f440 1f442-1f4fc 1f4ff-1f53d 1f54b-1f54e 1f550-1f567 1f57a 1f595-1f596 1f5a4 1f5fb-1f64f
     1f680-1f6c5 1f6cc 1f6d0-1f6d2 1f6d5-1f6d7 1f6dc-1f6df 1f6eb-1f6ec 1f6f4-1f6fc 1f7e0-1f7eb
     1f7f0 1f90c-1f93a 1f93c-1f945 1f947-1f9ff 1fa70-1fa7c 1fa80-1fa89 1fa8f-1fac6 1face-1fadc
     1fadf-1fae9 1faf0-1faf8 20000-2fffd 30000-3fffd"

/-- How many cells a character fills by itself. A control fills one. -/
def charWidth (c : Char) : Nat :=
  let n := c.toNat
  if n ≤ 0xA0 then 1
  else if zeroRanges.contains n then 0
  else if wideRanges.contains n then 2
  else if n = 0x17D8 then 3
  else 1

/-! ## Emoji -/

/-- Characters that are shown as emoji unless something else is asked for. -/
def emojiRanges : Ranges := .ofText
    "231a-231b 23e9-23ec 23f0 23f3 25fd-25fe 2614-2615 2648-2653 267f 2693 26a1 26aa-26ab
     26bd-26be 26c4-26c5 26ce 26d4 26ea 26f2-26f3 26f5 26fa 26fd 2705 270a-270b 2728 274c 274e
     2753-2755 2757 2795-2797 27b0 27bf 2b1b-2b1c 2b50 2b55 1f004 1f0cf 1f18e 1f191-1f19a 1f201
     1f21a 1f22f 1f232-1f236 1f238-1f23a 1f250-1f251 1f300-1f320 1f32d-1f335 1f337-1f37c
     1f37e-1f393 1f3a0-1f3ca 1f3cf-1f3d3 1f3e0-1f3f0 1f3f4 1f3f8-1f3fa 1f400-1f43e 1f440
     1f442-1f4fc 1f4ff-1f53d 1f54b-1f54e 1f550-1f567 1f57a 1f595-1f596 1f5a4 1f5fb-1f64f
     1f680-1f6c5 1f6cc 1f6d0-1f6d2 1f6d5-1f6d7 1f6dc-1f6df 1f6eb-1f6ec 1f6f4-1f6fc 1f7e0-1f7eb
     1f7f0 1f90c-1f93a 1f93c-1f945 1f947-1f9ff 1fa70-1fa7c 1fa80-1fa89 1fa8f-1fac6 1face-1fadc
     1fadf-1fae9 1faf0-1faf8"

/-- Characters that a selector behind them turns into an emoji or into a text character. -/
def selectableRanges : Ranges := .ofText
    "23 2a 30-39 a9 ae 203c 2049 2122 2139 2194-2199 21a9-21aa 231a-231b 2328 23cf 23e9-23ea
     23ed-23ef 23f1-23f3 23f8-23fa 24c2 25aa-25ab 25b6 25c0 25fb-25fe 2600-2604 260e 2611
     2614-2615 2618 261d 2620 2622-2623 2626 262a 262e-262f 2638-263a 2640 2642 2648-2653
     265f-2660 2663 2665-2666 2668 267b 267e-267f 2692-2697 2699 269b-269c 26a0-26a1 26a7
     26aa-26ab 26b0-26b1 26bd-26be 26c4-26c5 26c8 26cf 26d1 26d3-26d4 26e9-26ea 26f0-26f5
     26f7-26fa 26fd 2702 2708-2709 270c-270d 270f 2712 2714 2716 271d 2721 2733-2734 2744 2747
     2753 2757 2763-2764 27a1 2934-2935 2b05-2b07 2b1b-2b1c 2b50 2b55 3030 303d 3297 3299 1f004
     1f170-1f171 1f17e-1f17f 1f202 1f21a 1f22f 1f237 1f30d-1f30f 1f315 1f31c 1f321 1f324-1f32c
     1f336 1f378 1f37d 1f393 1f396-1f397 1f399-1f39b 1f39e-1f39f 1f3a7 1f3ac-1f3ae 1f3c2 1f3c4
     1f3c6 1f3ca-1f3ce 1f3d4-1f3e0 1f3ed 1f3f3 1f3f5 1f3f7 1f408 1f415 1f41f 1f426 1f43f
     1f441-1f442 1f446-1f449 1f44d-1f44e 1f453 1f46a 1f47d 1f4a3 1f4b0 1f4b3 1f4bb 1f4bf 1f4cb
     1f4da 1f4df 1f4e4-1f4e6 1f4ea-1f4ed 1f4f7 1f4f9-1f4fb 1f4fd 1f508 1f50d 1f512-1f513
     1f549-1f54a 1f550-1f567 1f56f-1f570 1f573-1f579 1f587 1f58a-1f58d 1f590 1f5a5 1f5a8
     1f5b1-1f5b2 1f5bc 1f5c2-1f5c4 1f5d1-1f5d3 1f5dc-1f5de 1f5e1 1f5e3 1f5e8 1f5ef 1f5f3 1f5fa
     1f610 1f687 1f68d 1f691 1f694 1f698 1f6ad 1f6b2 1f6b9-1f6ba 1f6bc 1f6cb 1f6cd-1f6cf
     1f6e0-1f6e5 1f6e9 1f6f0 1f6f3"

/-- Emoji of people and hands, which a modifier behind them gives a colour. -/
def modifiableRanges : Ranges := .ofText
    "261d 26f9 270a-270d 1f385 1f3c2-1f3c4 1f3c7 1f3ca-1f3cc 1f442-1f443 1f446-1f450 1f466-1f478
     1f47c 1f481-1f483 1f485-1f487 1f48f 1f491 1f4aa 1f574-1f575 1f57a 1f590 1f595-1f596
     1f645-1f647 1f64b-1f64f 1f6a3 1f6b4-1f6b6 1f6c0 1f6cc 1f90c 1f90f 1f918-1f91f 1f926
     1f930-1f939 1f93c-1f93e 1f977 1f9b5-1f9b6 1f9b8-1f9b9 1f9bb 1f9cd-1f9cf 1f9d1-1f9dd
     1fac3-1fac5 1faf0-1faf8"

/-- Whether a character is shown as an emoji by itself. -/
def isEmoji (c : Char) : Bool := emojiRanges.contains c.toNat

/-- Whether a selector can turn a character into an emoji. -/
def isSelectable (c : Char) : Bool := selectableRanges.contains c.toNat

/-- Whether a selector makes a wide emoji a text character of one cell. Ideographs stay wide. -/
def isShrinkable (c : Char) : Bool :=
  isEmoji c && isSelectable c && !(0x1F200 ≤ c.toNat && c.toNat ≤ 0x1F2FF)

/-- Whether a character gives the emoji before it a colour. -/
def isModifier (c : Char) : Bool := 0x1F3FB ≤ c.toNat && c.toNat ≤ 0x1F3FF

/-- Whether a character is one letter of a flag. -/
def isRegional (c : Char) : Bool := 0x1F1E6 ≤ c.toNat && c.toNat ≤ 0x1F1FF

/-- Whether a character names a part of a country behind a black flag. -/
def isTag (c : Char) : Bool :=
  (0xE0030 ≤ c.toNat && c.toNat ≤ 0xE0039) || (0xE0061 ≤ c.toNat && c.toNat ≤ 0xE007A)

/-- Letters that a sign before them moves below the letter before it. -/
def isStackable (c : Char) : Bool :=
  let n := c.toNat
  (0x1780 ≤ n && n ≤ 0x1782) || (0x1784 ≤ n && n ≤ 0x1787) || (0x1789 ≤ n && n ≤ 0x178C) ||
    (0x178E ≤ n && n ≤ 0x1793) || (0x1795 ≤ n && n ≤ 0x1798) || (0x179B ≤ n && n ≤ 0x179D) ||
    [0x17A0, 0x17A2, 0x17A7, 0x17AB, 0x17AC, 0x17AF].contains n

/-! ## Texts -/

/-- What the characters behind one say about it. -/
inductive Follower where
  | none
  | lineFeed
  /-- An emoji, or a modifier of one. -/
  | emoji
  | modifier
  /-- A joiner and an emoji. -/
  | joinedEmoji
  /-- So many tags of a flag, the mark of their end, a joiner and an emoji. -/
  | joinedTags (count : Nat)
  | regional
  /-- A letter that can be moved below another. -/
  | stackable
  /-- The vowel that is part of longer ones, and the longer one of two such vowels. -/
  | shortVowel
  | longVowel
  deriving DecidableEq

/-- How a selector in between asks for a character to be shown. -/
inductive Selector where
  | none
  | text
  | emoji
  deriving DecidableEq

/-- What is known behind a character. -/
structure Behind where
  follower : Follower := .none
  selector : Selector := .none

namespace Behind

/-- What a character that is measured by itself says about the one before it. -/
def ofAlone (c : Char) : Behind :=
  if c = '\uFE0F' then { selector := .emoji }
  else if c = '\uFE0E' then { selector := .text }
  else if isModifier c then { follower := .modifier }
  else if isRegional c then { follower := .regional }
  else if isEmoji c then { follower := .emoji }
  else if isStackable c then { follower := .stackable }
  else if c.toNat = 0x16D67 then { follower := .shortVowel }
  else if c.toNat = 0x16D68 then { follower := .longVowel }
  else {}

/-- A character before what is known: the cells that it adds, and what is known then. -/
def alone (c : Char) : Int × Behind :=
  if c.toNat ≤ 0xA0 then (1, if c = '\n' then { follower := .lineFeed } else {})
  else (charWidth c, ofAlone c)

/-- A character that is shown together with what follows it, if it is. -/
def together? (f : Follower) (c : Char) : Option (Int × Behind) :=
  match f with
  | .none => none
  | .lineFeed => none
  | .emoji => if c = '\u200D' then some (0, { follower := .joinedEmoji }) else none
  | .modifier =>
    if modifiableRanges.contains c.toNat then some (0, { follower := .emoji })
    else if c = '\u200D' then some (0, { follower := .joinedEmoji })
    else none
  | .joinedEmoji =>
    if isModifier c then some (0, { follower := .modifier })
    else if c.toNat = 0xE007F then some (0, { follower := .joinedTags 0 })
    else if isEmoji c then some (0, { follower := .emoji })
    else none
  | .joinedTags count =>
    if isTag c ∧ count < 6 then some (0, { follower := .joinedTags (count + 1) })
    else if c.toNat = 0x1F3F4 ∧ 3 ≤ count then some (0, { follower := .emoji })
    else none
  | .regional => if isRegional c then some (1, { follower := .regional }) else none
  | .stackable => if c = '\u17D2' then some (-1, {}) else none
  | .shortVowel =>
    if c.toNat = 0x16D67 then some (0, { follower := .longVowel })
    else if c.toNat = 0x16D63 ∨ c.toNat = 0x16D69 then some (0, {})
    else none
  | .longVowel => if c.toNat = 0x16D63 then some (0, {}) else none

/-- Measures a character, knowing what follows it. -/
def step (b : Behind) (c : Char) : Int × Behind :=
  if b.selector = .emoji ∧ isSelectable c then
    (if b.follower = .joinedEmoji then 0 else 2, { follower := .emoji })
  else if c.toNat ≤ 0xA0 then
    if c = '\r' ∧ b.follower = .lineFeed then (0, {}) else alone c
  else if b.selector = .text ∧ isShrinkable c then (1, {})
  else if b.follower ≠ .none ∧ c = '\uFE0F' then (0, { b with selector := .emoji })
  else if b.follower ≠ .none ∧ c = '\uFE0E' then (0, { b with selector := .text })
  else (together? b.follower c).getD (alone c)

end Behind

/-- The cells that a text fills before what is known behind it, and what is known then. -/
def measure : List Char → Int × Behind
  | [] => (0, {})
  | c :: rest =>
    let (n, b) := measure rest
    let (m, b) := b.step c
    (m + n, b)

/-- How many cells a text fills. -/
def width (cs : List Char) : Nat := (measure cs).1.toNat

end NetGauge.Screen
