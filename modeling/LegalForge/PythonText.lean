import Mathlib

/-! Python's `str.strip` and `str.upper`, over all of Unicode. -/
namespace LegalForge.Text

/-- `str.isspace` of one character -/
def isSpace (c : Char) : Bool :=
  let n := c.toNat
  (9 ≤ n ∧ n ≤ 13) ∨ (28 ≤ n ∧ n ≤ 32) ∨ n = 0x85 ∨ n = 0xa0 ∨ n = 0x1680 ∨
    (0x2000 ≤ n ∧ n ≤ 0x200a) ∨ n = 0x2028 ∨ n = 0x2029 ∨ n = 0x202f ∨ n = 0x205f ∨ n = 0x3000

def strip (text : String) : String :=
  String.ofList ((text.toList.dropWhile isSpace).reverse.dropWhile isSpace).reverse

/-- Every `step`-th code point from `first` to `last` has an upper case that lies as
far from `target` as the code point from `first`, followed by `suffix`. -/
structure CaseRange where
  first : ℕ
  last : ℕ
  step : ℕ
  target : ℕ
  suffix : List ℕ

/-- The upper case mappings of Unicode, the special ones to several characters
included. -/
def upperRanges : List CaseRange :=
  [⟨0x61, 0x7a, 1, 0x41, []⟩, ⟨0xb5, 0xb5, 1, 0x39c, []⟩, ⟨0xdf, 0xdf, 1, 0x53, [0x53]⟩,
   ⟨0xe0, 0xf6, 1, 0xc0, []⟩, ⟨0xf8, 0xfe, 1, 0xd8, []⟩, ⟨0xff, 0xff, 1, 0x178, []⟩,
   ⟨0x101, 0x12f, 2, 0x100, []⟩, ⟨0x131, 0x131, 1, 0x49, []⟩, ⟨0x133, 0x137, 2, 0x132, []⟩,
   ⟨0x13a, 0x148, 2, 0x139, []⟩, ⟨0x149, 0x149, 1, 0x2bc, [0x4e]⟩, ⟨0x14b, 0x177, 2, 0x14a, []⟩,
   ⟨0x17a, 0x17e, 2, 0x179, []⟩, ⟨0x17f, 0x17f, 1, 0x53, []⟩, ⟨0x180, 0x180, 1, 0x243, []⟩,
   ⟨0x183, 0x185, 2, 0x182, []⟩, ⟨0x188, 0x188, 1, 0x187, []⟩, ⟨0x18c, 0x18c, 1, 0x18b, []⟩,
   ⟨0x192, 0x192, 1, 0x191, []⟩, ⟨0x195, 0x195, 1, 0x1f6, []⟩, ⟨0x199, 0x199, 1, 0x198, []⟩,
   ⟨0x19a, 0x19a, 1, 0x23d, []⟩, ⟨0x19e, 0x19e, 1, 0x220, []⟩, ⟨0x1a1, 0x1a5, 2, 0x1a0, []⟩,
   ⟨0x1a8, 0x1a8, 1, 0x1a7, []⟩, ⟨0x1ad, 0x1ad, 1, 0x1ac, []⟩, ⟨0x1b0, 0x1b0, 1, 0x1af, []⟩,
   ⟨0x1b4, 0x1b6, 2, 0x1b3, []⟩, ⟨0x1b9, 0x1b9, 1, 0x1b8, []⟩, ⟨0x1bd, 0x1bd, 1, 0x1bc, []⟩,
   ⟨0x1bf, 0x1bf, 1, 0x1f7, []⟩, ⟨0x1c5, 0x1c5, 1, 0x1c4, []⟩, ⟨0x1c6, 0x1c6, 1, 0x1c4, []⟩,
   ⟨0x1c8, 0x1c8, 1, 0x1c7, []⟩, ⟨0x1c9, 0x1c9, 1, 0x1c7, []⟩, ⟨0x1cb, 0x1cb, 1, 0x1ca, []⟩,
   ⟨0x1cc, 0x1cc, 1, 0x1ca, []⟩, ⟨0x1ce, 0x1dc, 2, 0x1cd, []⟩, ⟨0x1dd, 0x1dd, 1, 0x18e, []⟩,
   ⟨0x1df, 0x1ef, 2, 0x1de, []⟩, ⟨0x1f0, 0x1f0, 1, 0x4a, [0x30c]⟩, ⟨0x1f2, 0x1f2, 1, 0x1f1, []⟩,
   ⟨0x1f3, 0x1f3, 1, 0x1f1, []⟩, ⟨0x1f5, 0x1f5, 1, 0x1f4, []⟩, ⟨0x1f9, 0x21f, 2, 0x1f8, []⟩,
   ⟨0x223, 0x233, 2, 0x222, []⟩, ⟨0x23c, 0x23c, 1, 0x23b, []⟩, ⟨0x23f, 0x240, 1, 0x2c7e, []⟩,
   ⟨0x242, 0x242, 1, 0x241, []⟩, ⟨0x247, 0x24f, 2, 0x246, []⟩, ⟨0x250, 0x250, 1, 0x2c6f, []⟩,
   ⟨0x251, 0x251, 1, 0x2c6d, []⟩, ⟨0x252, 0x252, 1, 0x2c70, []⟩, ⟨0x253, 0x253, 1, 0x181, []⟩,
   ⟨0x254, 0x254, 1, 0x186, []⟩, ⟨0x256, 0x257, 1, 0x189, []⟩, ⟨0x259, 0x259, 1, 0x18f, []⟩,
   ⟨0x25b, 0x25b, 1, 0x190, []⟩, ⟨0x25c, 0x25c, 1, 0xa7ab, []⟩, ⟨0x260, 0x260, 1, 0x193, []⟩,
   ⟨0x261, 0x261, 1, 0xa7ac, []⟩, ⟨0x263, 0x263, 1, 0x194, []⟩, ⟨0x265, 0x265, 1, 0xa78d, []⟩,
   ⟨0x266, 0x266, 1, 0xa7aa, []⟩, ⟨0x268, 0x268, 1, 0x197, []⟩, ⟨0x269, 0x269, 1, 0x196, []⟩,
   ⟨0x26a, 0x26a, 1, 0xa7ae, []⟩, ⟨0x26b, 0x26b, 1, 0x2c62, []⟩, ⟨0x26c, 0x26c, 1, 0xa7ad, []⟩,
   ⟨0x26f, 0x26f, 1, 0x19c, []⟩, ⟨0x271, 0x271, 1, 0x2c6e, []⟩, ⟨0x272, 0x272, 1, 0x19d, []⟩,
   ⟨0x275, 0x275, 1, 0x19f, []⟩, ⟨0x27d, 0x27d, 1, 0x2c64, []⟩, ⟨0x280, 0x280, 1, 0x1a6, []⟩,
   ⟨0x282, 0x282, 1, 0xa7c5, []⟩, ⟨0x283, 0x283, 1, 0x1a9, []⟩, ⟨0x287, 0x287, 1, 0xa7b1, []⟩,
   ⟨0x288, 0x288, 1, 0x1ae, []⟩, ⟨0x289, 0x289, 1, 0x244, []⟩, ⟨0x28a, 0x28b, 1, 0x1b1, []⟩,
   ⟨0x28c, 0x28c, 1, 0x245, []⟩, ⟨0x292, 0x292, 1, 0x1b7, []⟩, ⟨0x29d, 0x29d, 1, 0xa7b2, []⟩,
   ⟨0x29e, 0x29e, 1, 0xa7b0, []⟩, ⟨0x345, 0x345, 1, 0x399, []⟩, ⟨0x371, 0x373, 2, 0x370, []⟩,
   ⟨0x377, 0x377, 1, 0x376, []⟩, ⟨0x37b, 0x37d, 1, 0x3fd, []⟩,
   ⟨0x390, 0x390, 1, 0x399, [0x308, 0x301]⟩, ⟨0x3ac, 0x3ac, 1, 0x386, []⟩,
   ⟨0x3ad, 0x3af, 1, 0x388, []⟩, ⟨0x3b0, 0x3b0, 1, 0x3a5, [0x308, 0x301]⟩,
   ⟨0x3b1, 0x3c1, 1, 0x391, []⟩, ⟨0x3c2, 0x3c2, 1, 0x3a3, []⟩, ⟨0x3c3, 0x3cb, 1, 0x3a3, []⟩,
   ⟨0x3cc, 0x3cc, 1, 0x38c, []⟩, ⟨0x3cd, 0x3ce, 1, 0x38e, []⟩, ⟨0x3d0, 0x3d0, 1, 0x392, []⟩,
   ⟨0x3d1, 0x3d1, 1, 0x398, []⟩, ⟨0x3d5, 0x3d5, 1, 0x3a6, []⟩, ⟨0x3d6, 0x3d6, 1, 0x3a0, []⟩,
   ⟨0x3d7, 0x3d7, 1, 0x3cf, []⟩, ⟨0x3d9, 0x3ef, 2, 0x3d8, []⟩, ⟨0x3f0, 0x3f0, 1, 0x39a, []⟩,
   ⟨0x3f1, 0x3f1, 1, 0x3a1, []⟩, ⟨0x3f2, 0x3f2, 1, 0x3f9, []⟩, ⟨0x3f3, 0x3f3, 1, 0x37f, []⟩,
   ⟨0x3f5, 0x3f5, 1, 0x395, []⟩, ⟨0x3f8, 0x3f8, 1, 0x3f7, []⟩, ⟨0x3fb, 0x3fb, 1, 0x3fa, []⟩,
   ⟨0x430, 0x44f, 1, 0x410, []⟩, ⟨0x450, 0x45f, 1, 0x400, []⟩, ⟨0x461, 0x481, 2, 0x460, []⟩,
   ⟨0x48b, 0x4bf, 2, 0x48a, []⟩, ⟨0x4c2, 0x4ce, 2, 0x4c1, []⟩, ⟨0x4cf, 0x4cf, 1, 0x4c0, []⟩,
   ⟨0x4d1, 0x52f, 2, 0x4d0, []⟩, ⟨0x561, 0x586, 1, 0x531, []⟩, ⟨0x587, 0x587, 1, 0x535, [0x552]⟩,
   ⟨0x10d0, 0x10fa, 1, 0x1c90, []⟩, ⟨0x10fd, 0x10ff, 1, 0x1cbd, []⟩,
   ⟨0x13f8, 0x13fd, 1, 0x13f0, []⟩, ⟨0x1c80, 0x1c80, 1, 0x412, []⟩, ⟨0x1c81, 0x1c81, 1, 0x414, []⟩,
   ⟨0x1c82, 0x1c82, 1, 0x41e, []⟩, ⟨0x1c83, 0x1c84, 1, 0x421, []⟩, ⟨0x1c85, 0x1c85, 1, 0x422, []⟩,
   ⟨0x1c86, 0x1c86, 1, 0x42a, []⟩, ⟨0x1c87, 0x1c87, 1, 0x462, []⟩, ⟨0x1c88, 0x1c88, 1, 0xa64a, []⟩,
   ⟨0x1d79, 0x1d79, 1, 0xa77d, []⟩, ⟨0x1d7d, 0x1d7d, 1, 0x2c63, []⟩,
   ⟨0x1d8e, 0x1d8e, 1, 0xa7c6, []⟩, ⟨0x1e01, 0x1e95, 2, 0x1e00, []⟩,
   ⟨0x1e96, 0x1e96, 1, 0x48, [0x331]⟩, ⟨0x1e97, 0x1e97, 1, 0x54, [0x308]⟩,
   ⟨0x1e98, 0x1e98, 1, 0x57, [0x30a]⟩, ⟨0x1e99, 0x1e99, 1, 0x59, [0x30a]⟩,
   ⟨0x1e9a, 0x1e9a, 1, 0x41, [0x2be]⟩, ⟨0x1e9b, 0x1e9b, 1, 0x1e60, []⟩,
   ⟨0x1ea1, 0x1eff, 2, 0x1ea0, []⟩, ⟨0x1f00, 0x1f07, 1, 0x1f08, []⟩,
   ⟨0x1f10, 0x1f15, 1, 0x1f18, []⟩, ⟨0x1f20, 0x1f27, 1, 0x1f28, []⟩,
   ⟨0x1f30, 0x1f37, 1, 0x1f38, []⟩, ⟨0x1f40, 0x1f45, 1, 0x1f48, []⟩,
   ⟨0x1f50, 0x1f50, 1, 0x3a5, [0x313]⟩, ⟨0x1f51, 0x1f51, 1, 0x1f59, []⟩,
   ⟨0x1f52, 0x1f52, 1, 0x3a5, [0x313, 0x300]⟩, ⟨0x1f53, 0x1f53, 1, 0x1f5b, []⟩,
   ⟨0x1f54, 0x1f54, 1, 0x3a5, [0x313, 0x301]⟩, ⟨0x1f55, 0x1f55, 1, 0x1f5d, []⟩,
   ⟨0x1f56, 0x1f56, 1, 0x3a5, [0x313, 0x342]⟩, ⟨0x1f57, 0x1f57, 1, 0x1f5f, []⟩,
   ⟨0x1f60, 0x1f67, 1, 0x1f68, []⟩, ⟨0x1f70, 0x1f71, 1, 0x1fba, []⟩,
   ⟨0x1f72, 0x1f75, 1, 0x1fc8, []⟩, ⟨0x1f76, 0x1f77, 1, 0x1fda, []⟩,
   ⟨0x1f78, 0x1f79, 1, 0x1ff8, []⟩, ⟨0x1f7a, 0x1f7b, 1, 0x1fea, []⟩,
   ⟨0x1f7c, 0x1f7d, 1, 0x1ffa, []⟩, ⟨0x1f80, 0x1f87, 1, 0x1f08, [0x399]⟩,
   ⟨0x1f88, 0x1f8f, 1, 0x1f08, [0x399]⟩, ⟨0x1f90, 0x1f97, 1, 0x1f28, [0x399]⟩,
   ⟨0x1f98, 0x1f9f, 1, 0x1f28, [0x399]⟩, ⟨0x1fa0, 0x1fa7, 1, 0x1f68, [0x399]⟩,
   ⟨0x1fa8, 0x1faf, 1, 0x1f68, [0x399]⟩, ⟨0x1fb0, 0x1fb1, 1, 0x1fb8, []⟩,
   ⟨0x1fb2, 0x1fb2, 1, 0x1fba, [0x399]⟩, ⟨0x1fb3, 0x1fb3, 1, 0x391, [0x399]⟩,
   ⟨0x1fb4, 0x1fb4, 1, 0x386, [0x399]⟩, ⟨0x1fb6, 0x1fb6, 1, 0x391, [0x342]⟩,
   ⟨0x1fb7, 0x1fb7, 1, 0x391, [0x342, 0x399]⟩, ⟨0x1fbc, 0x1fbc, 1, 0x391, [0x399]⟩,
   ⟨0x1fbe, 0x1fbe, 1, 0x399, []⟩, ⟨0x1fc2, 0x1fc2, 1, 0x1fca, [0x399]⟩,
   ⟨0x1fc3, 0x1fc3, 1, 0x397, [0x399]⟩, ⟨0x1fc4, 0x1fc4, 1, 0x389, [0x399]⟩,
   ⟨0x1fc6, 0x1fc6, 1, 0x397, [0x342]⟩, ⟨0x1fc7, 0x1fc7, 1, 0x397, [0x342, 0x399]⟩,
   ⟨0x1fcc, 0x1fcc, 1, 0x397, [0x399]⟩, ⟨0x1fd0, 0x1fd1, 1, 0x1fd8, []⟩,
   ⟨0x1fd2, 0x1fd2, 1, 0x399, [0x308, 0x300]⟩, ⟨0x1fd3, 0x1fd3, 1, 0x399, [0x308, 0x301]⟩,
   ⟨0x1fd6, 0x1fd6, 1, 0x399, [0x342]⟩, ⟨0x1fd7, 0x1fd7, 1, 0x399, [0x308, 0x342]⟩,
   ⟨0x1fe0, 0x1fe1, 1, 0x1fe8, []⟩, ⟨0x1fe2, 0x1fe2, 1, 0x3a5, [0x308, 0x300]⟩,
   ⟨0x1fe3, 0x1fe3, 1, 0x3a5, [0x308, 0x301]⟩, ⟨0x1fe4, 0x1fe4, 1, 0x3a1, [0x313]⟩,
   ⟨0x1fe5, 0x1fe5, 1, 0x1fec, []⟩, ⟨0x1fe6, 0x1fe6, 1, 0x3a5, [0x342]⟩,
   ⟨0x1fe7, 0x1fe7, 1, 0x3a5, [0x308, 0x342]⟩, ⟨0x1ff2, 0x1ff2, 1, 0x1ffa, [0x399]⟩,
   ⟨0x1ff3, 0x1ff3, 1, 0x3a9, [0x399]⟩, ⟨0x1ff4, 0x1ff4, 1, 0x38f, [0x399]⟩,
   ⟨0x1ff6, 0x1ff6, 1, 0x3a9, [0x342]⟩, ⟨0x1ff7, 0x1ff7, 1, 0x3a9, [0x342, 0x399]⟩,
   ⟨0x1ffc, 0x1ffc, 1, 0x3a9, [0x399]⟩, ⟨0x214e, 0x214e, 1, 0x2132, []⟩,
   ⟨0x2170, 0x217f, 1, 0x2160, []⟩, ⟨0x2184, 0x2184, 1, 0x2183, []⟩,
   ⟨0x24d0, 0x24e9, 1, 0x24b6, []⟩, ⟨0x2c30, 0x2c5f, 1, 0x2c00, []⟩,
   ⟨0x2c61, 0x2c61, 1, 0x2c60, []⟩, ⟨0x2c65, 0x2c65, 1, 0x23a, []⟩, ⟨0x2c66, 0x2c66, 1, 0x23e, []⟩,
   ⟨0x2c68, 0x2c6c, 2, 0x2c67, []⟩, ⟨0x2c73, 0x2c73, 1, 0x2c72, []⟩,
   ⟨0x2c76, 0x2c76, 1, 0x2c75, []⟩, ⟨0x2c81, 0x2ce3, 2, 0x2c80, []⟩,
   ⟨0x2cec, 0x2cee, 2, 0x2ceb, []⟩, ⟨0x2cf3, 0x2cf3, 1, 0x2cf2, []⟩,
   ⟨0x2d00, 0x2d25, 1, 0x10a0, []⟩, ⟨0x2d27, 0x2d27, 1, 0x10c7, []⟩,
   ⟨0x2d2d, 0x2d2d, 1, 0x10cd, []⟩, ⟨0xa641, 0xa66d, 2, 0xa640, []⟩,
   ⟨0xa681, 0xa69b, 2, 0xa680, []⟩, ⟨0xa723, 0xa72f, 2, 0xa722, []⟩,
   ⟨0xa733, 0xa76f, 2, 0xa732, []⟩, ⟨0xa77a, 0xa77c, 2, 0xa779, []⟩,
   ⟨0xa77f, 0xa787, 2, 0xa77e, []⟩, ⟨0xa78c, 0xa78c, 1, 0xa78b, []⟩,
   ⟨0xa791, 0xa793, 2, 0xa790, []⟩, ⟨0xa794, 0xa794, 1, 0xa7c4, []⟩,
   ⟨0xa797, 0xa7a9, 2, 0xa796, []⟩, ⟨0xa7b5, 0xa7c3, 2, 0xa7b4, []⟩,
   ⟨0xa7c8, 0xa7ca, 2, 0xa7c7, []⟩, ⟨0xa7d1, 0xa7d1, 1, 0xa7d0, []⟩,
   ⟨0xa7d7, 0xa7d9, 2, 0xa7d6, []⟩, ⟨0xa7f6, 0xa7f6, 1, 0xa7f5, []⟩,
   ⟨0xab53, 0xab53, 1, 0xa7b3, []⟩, ⟨0xab70, 0xabbf, 1, 0x13a0, []⟩,
   ⟨0xfb00, 0xfb00, 1, 0x46, [0x46]⟩, ⟨0xfb01, 0xfb01, 1, 0x46, [0x49]⟩,
   ⟨0xfb02, 0xfb02, 1, 0x46, [0x4c]⟩, ⟨0xfb03, 0xfb03, 1, 0x46, [0x46, 0x49]⟩,
   ⟨0xfb04, 0xfb04, 1, 0x46, [0x46, 0x4c]⟩, ⟨0xfb05, 0xfb05, 1, 0x53, [0x54]⟩,
   ⟨0xfb06, 0xfb06, 1, 0x53, [0x54]⟩, ⟨0xfb13, 0xfb13, 1, 0x544, [0x546]⟩,
   ⟨0xfb14, 0xfb14, 1, 0x544, [0x535]⟩, ⟨0xfb15, 0xfb15, 1, 0x544, [0x53b]⟩,
   ⟨0xfb16, 0xfb16, 1, 0x54e, [0x546]⟩, ⟨0xfb17, 0xfb17, 1, 0x544, [0x53d]⟩,
   ⟨0xff41, 0xff5a, 1, 0xff21, []⟩, ⟨0x10428, 0x1044f, 1, 0x10400, []⟩,
   ⟨0x104d8, 0x104fb, 1, 0x104b0, []⟩, ⟨0x10597, 0x105a1, 1, 0x10570, []⟩,
   ⟨0x105a3, 0x105b1, 1, 0x1057c, []⟩, ⟨0x105b3, 0x105b9, 1, 0x1058c, []⟩,
   ⟨0x105bb, 0x105bc, 1, 0x10594, []⟩, ⟨0x10cc0, 0x10cf2, 1, 0x10c80, []⟩,
   ⟨0x118c0, 0x118df, 1, 0x118a0, []⟩, ⟨0x16e60, 0x16e7f, 1, 0x16e40, []⟩,
   ⟨0x1e922, 0x1e943, 1, 0x1e900, []⟩]

def upperChar (c : Char) : List Char :=
  let n := c.toNat
  match upperRanges.find? (fun r => r.first ≤ n ∧ n ≤ r.last ∧ (n-r.first)%r.step = 0) with
  | none => [c]
  | some r => Char.ofNat (r.target+(n-r.first)) :: r.suffix.map Char.ofNat

def upper (text : String) : String :=
  String.ofList (text.toList.flatMap upperChar)

/-- No letter has this character in its upper case, and it has none itself. -/
def caseless (c : Char) : Bool :=
  c.toNat ≠ 0 && upperRanges.all (fun r =>
    (c.toNat < r.first ∨ r.last < c.toNat) ∧
    (c.toNat < r.target ∨ r.target+(r.last-r.first) < c.toNat) ∧ c.toNat ∉ r.suffix)

/-- Numbers that are no code points give the character 0. -/
theorem eq_toNat_of_ofNat {n : ℕ} {c : Char} (hc : c.toNat ≠ 0) (h : Char.ofNat n = c) :
    n = c.toNat := by
  subst h
  by_cases hvalid : n.isValidChar
  · simp [Char.ofNat, hvalid, Char.ofNatAux, Char.toNat]
  · simp [Char.ofNat, hvalid, Char.toNat] at hc

theorem mem_upperChar_iff {c d : Char} (h : caseless d = true) : d ∈ upperChar c ↔ d = c := by
  obtain ⟨hzero, hranges⟩ := Bool.and_eq_true_iff.mp h
  have hzero : d.toNat ≠ 0 := of_decide_eq_true hzero
  have hfree : ∀ r ∈ upperRanges, (d.toNat < r.first ∨ r.last < d.toNat) ∧
      (d.toNat < r.target ∨ r.target+(r.last-r.first) < d.toNat) ∧ d.toNat ∉ r.suffix :=
    fun r hr => of_decide_eq_true (List.all_eq_true.mp hranges r hr)
  simp only [upperChar]
  cases hfind : upperRanges.find? (fun r => r.first ≤ c.toNat ∧ c.toNat ≤ r.last ∧
      (c.toNat-r.first)%r.step = 0) with
  | none => exact List.mem_singleton
  | some r =>
    obtain ⟨hsource, htarget, hsuffix⟩ := hfree r (List.mem_of_find?_eq_some hfind)
    have hrange : r.first ≤ c.toNat ∧ c.toNat ≤ r.last ∧ (c.toNat-r.first)%r.step = 0 := by
      simpa using List.find?_some hfind
    constructor
    · intro hmem
      rcases List.mem_cons.mp hmem with hhead | htail
      · have hcode := eq_toNat_of_ofNat hzero hhead.symm
        omega
      · obtain ⟨n, hn, heq⟩ := List.mem_map.mp htail
        exact absurd (eq_toNat_of_ofNat hzero heq ▸ hn) hsuffix
    · rintro rfl
      omega

theorem mem_upper_iff {c : Char} (h : caseless c = true) (text : String) :
    c ∈ (upper text).toList ↔ c ∈ text.toList := by
  simp only [upper, String.toList_ofList, List.mem_flatMap, mem_upperChar_iff h]
  exact exists_eq_right'

end LegalForge.Text
