/-!
# Grapheme boundaries

The classes of code points that decide where a grapheme may end, in Unicode 16.0, each with the
loose spellings of its names and its code points in packed form.
-/

namespace SecretScan.Property

/-- Names of each class of grapheme boundaries and its code points, packed. -/
def graphemeBreaks : List (List String × List String) :=
  [(["control", "cn"],
    ["0 9 1 1 1 h 2n w d 0 12m 0 3jl 0 1ks 0 2 1 o 6 1d f 17yn 0 6o b ab8 f qxs 3 43z 7 h405 v 2o",
     "3j 6o 2rz"]),
   (["cr"],
    ["d 0"]),
   (["extend", "ex"],
    ["lc 33 7n 6 7b 18 1 0 1 1 1 1 1 0 20 a 1c k g 0 2t 6 2 5 2 1 1 3 z 0 u q 2j a 1m 8 9 0 o 3 1",
     "8 1 2 1 4 17 2 1n 8 16 n 1 v 1j 0 1 0 4 7 4 0 3 6 a 1 t 0 1m 0 1 0 2 3 8 0 9 0 a 1 q 0 2 1",
     "1l 0 4 1 4 1 2 2 3 0 u 1 3 0 b 1 1l 0 4 4 1 1 4 0 k 1 m 5 1 0 1m 0 1 1 1 3 8 0 7 2 a 1 u 0",
     "1n 0 1 0 c 0 9 0 14 0 3 0 1j 0 1 2 5 2 1 3 7 1 b 1 t 0 1m 0 2 0 2 0 3 0 5 1 7 1 b 1 s 1 1l 1",
     "1 0 2 3 8 0 9 0 a 1 t 0 20 0 4 0 2 2 1 0 8 0 29 0 2 6 c 7 2q 0 2 8 b 6 21 1 r 0 1 0 1 0 1j d",
     "1 4 1 1 5 a 1 z 9 0 2u 3 1 5 1 1 2 1 p 1 4 2 g 3 d 0 2 1 6 0 f 0 jj 2 qa 2 t 1 u 1 u 1 1s 1",
     "1 6 8 0 2 a 9 0 19 2 1 0 39 1 y 0 3a 2 4 1 9 0 6 2 63 1 2 0 1m 0 1 6 1 0 1 0 2 7 6 9 2 0 1c",
     "u 1d 3 1c 6 1 0 5 0 14 8 c 1 w 3 2 1 1 2 1k 0 1 1 3 0 1 2 1m 7 2 1 48 2 1 c 1 6 4 0 6 0 3 1",
     "5i 1r ek 0 5f w 2da 2 3x 0 2o v fe 5 2x 1 n9w 3 1 9 w 1 28 1 7k 0 3 0 4 0 p 1 5 0 47 1 q h d",
     "0 12 7 p a 1a 2 1c 0 2 3 2 1 13 0 1v 5 2 1 2 1 c 0 8 0 1b 0 1f 0 1 2 2 1 5 1 1 0 16 1 8 0 6m",
     "0 2 0 4 0 fn4 0 kh f g f a6 1 gt 0 6a 0 45 4 1ae 2 1 1 5 3 14 2 4 0 4l 1 fx 3 1t 4 8t 1 27 3",
     "1y a 1d 3 3f 0 1i e 15 0 2 1 a 2 1d 3 2 1 7 0 1p 2 10 4 1 7 1q 0 c 1 1g 8 a 3 2 0 2n 2 2 0 1",
     "1 6 0 2 0 4d 0 3 7 l 1 1l 1 1 0 1 0 m 0 e 6 3 4 1v 0 2 5 1 0 2 0 1 2 4 2 1 0 e 1 2d 7 2 2 1",
     "0 n 0 29 0 2 5 1 0 2 0 1 1 1 1 6j 0 2 3 6 1 1 1 r 1 2d 7 2 0 1 1 2y 0 1 0 2 5 1 0 2t 2 2 3 1",
     "4 77 8 1 1 6t 0 a 1 1 0 4 0 40 3 2 1 4 0 w 9 14 5 2 3 8 0 9 5 2 2 1a c 1 1 ba 6 1 5 1 0 2a l",
     "2 6 1 1 1 1 3e 5 3 0 1 1 1 6 1 0 20 1 3 0 1 0 9n 1 b 1 1g 4 5 0 1 0 n 0 44l 0 6 e 8ug b 3 2",
     "1xc 4 1n 6 t4 0 1r 3 29 0 f5k 1 3mp 19 2 m f2 0 1 2 4 4 8 7 2 6 u 3 44 2 1iz 1i 4 1d 8 0 e 0",
     "m 4 1 e 11s 6 1 g 2 6 1 1 1 4 2s 0 4g 6 af 0 1p 3 e4 3 72 1 kg 6 31 6 240 4 gx7k 2n 3k 6n"]),
   (["l"],
    ["3cw 2n u0w s"]),
   (["lf"],
    ["a 0"]),
   (["lv"],
    ["xz4 0 r 0 r 0 r 0 r 0 r 0 r 0 r 0 r 0 r 0 r 0 r 0 r 0 r 0 r 0 r 0 r 0 r 0 r 0 r 0 r 0 r 0 r",
     "0 r 0 r 0 r 0 r 0 r 0 r 0 r 0 r 0 r 0 r 0 r 0 r 0 r 0 r 0 r 0 r 0 r 0 r 0 r 0 r 0 r 0 r 0 r",
     "0 r 0 r 0 r 0 r 0 r 0 r 0 r 0 r 0 r 0 r 0 r 0 r 0 r 0 r 0 r 0 r 0 r 0 r 0 r 0 r 0 r 0 r 0 r",
     "0 r 0 r 0 r 0 r 0 r 0 r 0 r 0 r 0 r 0 r 0 r 0 r 0 r 0 r 0 r 0 r 0 r 0 r 0 r 0 r 0 r 0 r 0 r",
     "0 r 0 r 0 r 0 r 0 r 0 r 0 r 0 r 0 r 0 r 0 r 0 r 0 r 0 r 0 r 0 r 0 r 0 r 0 r 0 r 0 r 0 r 0 r",
     "0 r 0 r 0 r 0 r 0 r 0 r 0 r 0 r 0 r 0 r 0 r 0 r 0 r 0 r 0 r 0 r 0 r 0 r 0 r 0 r 0 r 0 r 0 r",
     "0 r 0 r 0 r 0 r 0 r 0 r 0 r 0 r 0 r 0 r 0 r 0 r 0 r 0 r 0 r 0 r 0 r 0 r 0 r 0 r 0 r 0 r 0 r",
     "0 r 0 r 0 r 0 r 0 r 0 r 0 r 0 r 0 r 0 r 0 r 0 r 0 r 0 r 0 r 0 r 0 r 0 r 0 r 0 r 0 r 0 r 0 r",
     "0 r 0 r 0 r 0 r 0 r 0 r 0 r 0 r 0 r 0 r 0 r 0 r 0 r 0 r 0 r 0 r 0 r 0 r 0 r 0 r 0 r 0 r 0 r",
     "0 r 0 r 0 r 0 r 0 r 0 r 0 r 0 r 0 r 0 r 0 r 0 r 0 r 0 r 0 r 0 r 0 r 0 r 0 r 0 r 0 r 0 r 0 r",
     "0 r 0 r 0 r 0 r 0 r 0 r 0 r 0 r 0 r 0 r 0 r 0 r 0 r 0 r 0 r 0 r 0 r 0 r 0 r 0 r 0 r 0 r 0 r",
     "0 r 0 r 0 r 0 r 0 r 0 r 0 r 0 r 0 r 0 r 0 r 0 r 0 r 0 r 0 r 0 r 0 r 0 r 0 r 0 r 0 r 0 r 0 r",
     "0 r 0 r 0 r 0 r 0 r 0 r 0 r 0 r 0 r 0 r 0 r 0 r 0 r 0 r 0 r 0 r 0 r 0 r 0 r 0 r 0 r 0 r 0 r",
     "0 r 0 r 0 r 0 r 0 r 0 r 0 r 0 r 0 r 0 r 0 r 0 r 0 r 0 r 0 r 0 r 0 r 0 r 0 r 0 r 0 r 0 r 0 r",
     "0 r 0 r 0 r 0 r 0 r 0 r 0 r 0 r 0 r 0 r 0 r 0 r 0 r 0 r 0 r 0 r 0 r 0 r 0 r 0 r 0 r 0 r 0 r",
     "0 r 0 r 0 r 0 r 0 r 0 r 0 r 0 r 0 r 0 r 0 r 0 r 0 r 0 r 0 r 0 r 0 r 0 r 0 r 0 r 0 r 0 r 0 r",
     "0 r 0 r 0 r 0 r 0 r 0 r 0 r 0 r 0 r 0 r 0 r 0 r 0 r 0 r 0 r 0 r 0 r 0 r 0 r 0 r 0 r 0 r 0 r",
     "0 r 0 r 0 r 0 r 0 r 0 r 0 r 0 r 0"]),
   (["lvt"],
    ["xz5 q 1 q 1 q 1 q 1 q 1 q 1 q 1 q 1 q 1 q 1 q 1 q 1 q 1 q 1 q 1 q 1 q 1 q 1 q 1 q 1 q 1 q 1",
     "q 1 q 1 q 1 q 1 q 1 q 1 q 1 q 1 q 1 q 1 q 1 q 1 q 1 q 1 q 1 q 1 q 1 q 1 q 1 q 1 q 1 q 1 q 1",
     "q 1 q 1 q 1 q 1 q 1 q 1 q 1 q 1 q 1 q 1 q 1 q 1 q 1 q 1 q 1 q 1 q 1 q 1 q 1 q 1 q 1 q 1 q 1",
     "q 1 q 1 q 1 q 1 q 1 q 1 q 1 q 1 q 1 q 1 q 1 q 1 q 1 q 1 q 1 q 1 q 1 q 1 q 1 q 1 q 1 q 1 q 1",
     "q 1 q 1 q 1 q 1 q 1 q 1 q 1 q 1 q 1 q 1 q 1 q 1 q 1 q 1 q 1 q 1 q 1 q 1 q 1 q 1 q 1 q 1 q 1",
     "q 1 q 1 q 1 q 1 q 1 q 1 q 1 q 1 q 1 q 1 q 1 q 1 q 1 q 1 q 1 q 1 q 1 q 1 q 1 q 1 q 1 q 1 q 1",
     "q 1 q 1 q 1 q 1 q 1 q 1 q 1 q 1 q 1 q 1 q 1 q 1 q 1 q 1 q 1 q 1 q 1 q 1 q 1 q 1 q 1 q 1 q 1",
     "q 1 q 1 q 1 q 1 q 1 q 1 q 1 q 1 q 1 q 1 q 1 q 1 q 1 q 1 q 1 q 1 q 1 q 1 q 1 q 1 q 1 q 1 q 1",
     "q 1 q 1 q 1 q 1 q 1 q 1 q 1 q 1 q 1 q 1 q 1 q 1 q 1 q 1 q 1 q 1 q 1 q 1 q 1 q 1 q 1 q 1 q 1",
     "q 1 q 1 q 1 q 1 q 1 q 1 q 1 q 1 q 1 q 1 q 1 q 1 q 1 q 1 q 1 q 1 q 1 q 1 q 1 q 1 q 1 q 1 q 1",
     "q 1 q 1 q 1 q 1 q 1 q 1 q 1 q 1 q 1 q 1 q 1 q 1 q 1 q 1 q 1 q 1 q 1 q 1 q 1 q 1 q 1 q 1 q 1",
     "q 1 q 1 q 1 q 1 q 1 q 1 q 1 q 1 q 1 q 1 q 1 q 1 q 1 q 1 q 1 q 1 q 1 q 1 q 1 q 1 q 1 q 1 q 1",
     "q 1 q 1 q 1 q 1 q 1 q 1 q 1 q 1 q 1 q 1 q 1 q 1 q 1 q 1 q 1 q 1 q 1 q 1 q 1 q 1 q 1 q 1 q 1",
     "q 1 q 1 q 1 q 1 q 1 q 1 q 1 q 1 q 1 q 1 q 1 q 1 q 1 q 1 q 1 q 1 q 1 q 1 q 1 q 1 q 1 q 1 q 1",
     "q 1 q 1 q 1 q 1 q 1 q 1 q 1 q 1 q 1 q 1 q 1 q 1 q 1 q 1 q 1 q 1 q 1 q 1 q 1 q 1 q 1 q 1 q 1",
     "q 1 q 1 q 1 q 1 q 1 q 1 q 1 q 1 q 1 q 1 q 1 q 1 q 1 q 1 q 1 q 1 q 1 q 1 q 1 q 1 q 1 q 1 q 1",
     "q 1 q 1 q 1 q 1 q 1 q 1 q 1 q 1 q 1 q 1 q 1 q 1 q 1 q 1 q 1 q 1 q 1 q 1 q 1 q 1 q 1 q 1 q 1",
     "q 1 q 1 q 1 q 1 q 1 q 1 q 1 q 1 q"]),
   (["prepend", "pp"],
    ["16o 5 5z 0 1d 0 ao 1 28 0 vf 0 1f8u 0 f 0 6s 1 el 0 12l 0 1 0 6w 0 21 5 jg 0 cb 0"]),
   (["regionalindicator", "ri"],
    ["2qcm p"]),
   (["spacingmark", "sm"],
    ["1s3 0 1j 0 2 2 8 3 1 1 1e 1 1n 1 6 1 2 1 1i 0 1m 2 1u 0 1m 2 8 0 1 1 1h 1 1o 0 6 1 2 1 36 0",
     "1 1 3 2 1 2 1g 2 1p 3 1p 1 1m 0 1 1 1 1 2 1 1 1 13 0 e 1 1n 1 5 2 1 2 1h 1 24 1 6 6 j 1 1r 0",
     "3j 0 3u 1 1r 0 4x 0 9 1 p 1 18 0 1ao 0 u 0 3l 0 7 7 1 1 9m 3 2 2 4 1 1 5 68 1 1m 0 1 0 l 5",
     "41 0 1i 0 1 4 1 1 1p 0 u 0 4 1 2 0 1o 0 2 2 1 0 3 1 1c 7 8 1 4r 0 l 0 rhn 1 2 0 2g 1 1e f 3y",
     "1 1b 0 1c 1 4 1 2 2 32 1 2 1 o 0 4d 0 2 1 5 0 6l 1 1 1 1 1 1 0 jrn 0 1 0 3j 0 19 2 4 1 37 0",
     "o 1 1n 0 1c 2 9 1 d 0 2l 2 3 1 1 0 4q 2 v 1 1n 0 1 3 2 1 2 2 k 1 2d 1 f 0 1 1 2v 2 8 1 3 0",
     "2z 1 6 0 1 1 1 0 2 0 6m 1 6 3 2 0 35 2 8 1 1 0 31 0 1 1 6 0 33 0 79 2 9 0 6w 4 1 1 4 0 2 0 1",
     "0 3y 2 8 3 4 0 2c 0 t 1 1q 0 bb 0 e 0 2y 0 7 0 2 0 5x 4 4 1 1 0 9q 1 c 0 1c 1 8 1 1 0 d0o 2",
     "2sk 1i 2w 1 j90 0 6 0"]),
   (["t"],
    ["3hk 2f 132j 1c"]),
   (["v"],
    ["3fk 1z 1348 m"]),
   (["zwj"],
    ["6bx 0"])]

end SecretScan.Property
