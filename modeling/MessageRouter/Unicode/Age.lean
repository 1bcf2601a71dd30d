import MessageRouter.Unicode.Category

/-!
# Ages of characters

The age of a character is the version of the Unicode standard that assigned its code point.  By
the ages the categories of an earlier version follow from those of a later one: what was not yet
assigned was unassigned, and hardly any character has ever changed its category.
-/

namespace MessageRouter.Unicode

/-- A version of the Unicode standard. -/
structure Version where
  major : Nat
  minor : Nat
  deriving DecidableEq, Repr

namespace Version

def le (v w : Version) : Bool := v.major < w.major || (v.major == w.major && v.minor ≤ w.minor)

/-- The two ways to write a version, with a dot or after a letter. -/
def names (v : Version) : List String :=
  [toString v.major ++ "." ++ toString v.minor, "v" ++ toString v.major ++ toString v.minor]

end Version

/-- The versions that assigned code points, each with its letter in the table. -/
def versions : List (String × Version) :=
  [("h", ⟨1, 1⟩), ("i", ⟨2, 0⟩), ("j", ⟨2, 1⟩), ("k", ⟨3, 0⟩), ("l", ⟨3, 1⟩), ("m", ⟨3, 2⟩),
  ("n", ⟨4, 0⟩), ("o", ⟨4, 1⟩), ("p", ⟨5, 0⟩), ("q", ⟨5, 1⟩), ("r", ⟨5, 2⟩), ("s", ⟨6, 0⟩),
  ("t", ⟨6, 1⟩), ("u", ⟨6, 2⟩), ("v", ⟨6, 3⟩), ("w", ⟨7, 0⟩), ("x", ⟨8, 0⟩), ("y", ⟨9, 0⟩),
  ("z", ⟨10, 0⟩), ("A", ⟨11, 0⟩), ("B", ⟨12, 0⟩), ("C", ⟨12, 1⟩), ("D", ⟨13, 0⟩), ("E", ⟨14, 0⟩),
  ("F", ⟨15, 0⟩), ("G", ⟨15, 1⟩), ("H", ⟨16, 0⟩), ("I", ⟨17, 0⟩)]

/-- The ages of all code points; `g` stands for those that are not assigned. -/
def ageTable : List String := [
  "1f6h4k1eh8k1m1n12k3nboep59h5k2n2fh1kah5k11n46h9k1m8n5o3n2h1kdm4q2h2q2g1h3p1h1w4g7h1g1h1g14h",
  "1g2ch1q7h1k2m1h1k1h1k1h1k1h1k12h2l1m5n4o1kch1k42h1kch1k29h1q2k2m4k35h2m2h2m2h2m1p1ch2k8h2o2h",
  "6p10m4p10q2r2s8w1g26h2g7h1A27h1A1h1k2g2w1t1g11i1odiah1p9h1i3o8g1bh4g1A5hbg4n1t1w5q1o1h9n5q1h",
  "1v1E1o1h1s1ah5q13h3k3n6o1seh2m48h2k5h1kfh1k1eh2nah5k1nek1g1ek3n1bk2g3n1eo12q31k1meg3bp2g3A",
  "2er2gfr1g1cs2g1s1gbz5g1fE1I2E5g1H8E1t1wbt6w2x1E8yaDbE1Afy1x1bt1w1r3h1n35h2s12h1r1s5h1r2s19h",
  "2q5s1w2r2p1o2p1w3h1g8h2g2h2g16h1g7h1g1h3g4h2g1h1n7h2g2h2g3h1o8g1h4g2h1g5h2g15h1r2z1A2g1n1h1n",
  "1g6h4g2h2g16h1g7h1g2h1g2h1g2h2g1h1g5h4g2h2g3h3g1q7g4h1g1h7gfh1q1Aag3h1g7h1n1h1g3h1g16h1g7h1g",
  "2h1g5h2gah1g3h1g3h2g1hfg1h3n2gah1t1n7g1x6z1g3h1g8h2g2h2g16h1g7h1g2h1g1n4h2g8h1q2g2h2g3h7g1D",
  "2h4g2h1g3h2q2gbh1n6sag2h1g6h3g3h1g4h3g2h1g1h1g2h3g2h3g3h3g8h1o3h4g5h3g3h1g4h2g1q6g1heg1och8n",
  "5g1w3h1A8h1g3h1g17h1gah1w5h2g1E1q7h1g3h1g4h7g2h1g2q1x1g1I1E2g2h2q2gah7g1B8q1y1w2h1A8h1g3h1g",
  "17h1gah1g5h2g2n7h1g3h1g4h7g2h5g1I1E1h1g2h2p2gah1g2p1Fcg1z1w2h1D8h1g3h1g17h1s10h1s2z1q6h1q1g",
  "3h1g4h1s1y4g3y1h7y1x2h2q2gah6q3y7q1g1D2k1g12k3g18k1g9k1g1k2g7k3g1k4g6k1g1k1g8k6gaw2g3kcg3ah",
  "4g1dh25g2h1g1h1g1B2h1B1h1g1B1h6B4h1B7h1B3h1g1h1g1h2B2h1Bdh1B3h2g5h1g1h1g6h1F1gah2g2h2t20g48i",
  "1g21i1k2q4g1bi4s6i1k1i1g15i3k7i1k1i3k1gfk1g1q1k2o3q4r2s25g22k1q5k1q2k1q7k3q4k6q1ak40q4r2q26h",
  "1g1t5g1t2g27h2m2o1h1o3t5ah5r44h5r52h6r7k1o3fk1o1k1g4k2g7k1g1k1g4k2g27k1o1k1g4k2g1fk1o1k1g4k",
  "2g7k1g1k1g4k2g7k1o7k1g17k1o1fk1o1k1g4k2g7k1o27k1o13k2g2s2o1ck3g1ao6g55k1x2g6x2g1r276k9r1dk3g",
  "51k8w7gdm1E7m1E9g1E17m9g14mcgdm1g3m1g2mcg5dk1n2gak6gan6gfk1Eak6g58k1A7g2ak1q5g46rag1dn2w1gcn",
  "4gcn4g1n3g2an2g5nbg2ao2r4g1ao6gao1r3g2o20n1co2g2o3fr1g1dr2gbr6gar6ger2gfw2DeEfI2gcI14g4cp1E",
  "1g2H2dp2E1H2bq3tcq6t34s8g4s38q3gfq3g33q9y2H5g2bA2g3A8t8g23r4t1z2w1B5g6cn58o7p1cqfw4z1E1y1s1r",
  "2p9bh1i4q5ah6q16h2g6h2g26h2g6h2g8h1g1h1g1h1g1h1g1fh2g35h1gfh1geh2g6h1g13h2g3h1g9h1g2fh1k17h",
  "1m6k5m2n2o1m7o5m1q1g4v7h1m2g1bh1g5o8s3gbh1i1j3k2m4o3r1s1u3w1x1z1E1Ieg12h2k7m1o4p1qfg39h2k1n",
  "1ofm1o2p1q3r30h1k1p4q1r2x4g5bh9kcmf2hem1h1k79h1k1m1ek34m2nbocp1rbs7w4y1z25h2k3H16gbh15g8bh",
  "14m1n96ham50h8k8m14h2n2m1o1k56h2kcm2oam8nbo1q2r2n10o1paq3r4qar1s13r1s1r4s18r1w4h1s4h2s1ch1s",
  "23h1s1h1s4h3s1h1r7h2s7hem1fh3s18h1seh1s7o4p1t1q1t2s1cm4q10m100k200men6o7p5q4p29q3w5q5r1aw2g",
  "20w1I1D22w3Acw1B8w1z19A4xfA1B2fo1E2fo1Edp3q1r3q4p6q2r6bo7r2t5g2do1g1t5g1t2g36o2t7g1o1seg1s",
  "17o9g7o1g7o1g7o1g7o1g7o1g7o1g7o1g7o1g20q18o4q2o13q1rat7w2y5z5A1B3DbE22g1ak1g59kcgd6k1agck4G",
  "38h3k3m1k1h1g54h2m2g6h2m5eh1m5g28h1q1z1A1g5eh1g10h18k3s5D10o14q2H9g1G10m1dh2n1g24hcr1nfm1ch",
  "2n1o32hfmch4n2fh1C77h4n63h2n1fh1n19b6kaD40n51a6h16o8q8r1t9x15z5AdD3E48dk3g12k2m10k1mck1m3k1m",
  "1k9g30r12cq14g20q2s12q8t1cq6w1x1t58r8g17o4p5q2p6bq2s1x2s2tcwas1t3w1y1A2w6x2A6B2E5B4D3H2I2E1I",
  "1E1I5E3H14g1I3E2D1w2t1s5q2co1D3gar6g38p8g45q1y8gcq6g1cr2x2A54qbg1q1dr3g4er1gbr4g2r1fw1g37q9g",
  "eq2gaq2g4q1cr4w43r18g5r17tag6s2g6s2g6s9g7s1g7s1g30w4x2w2B4D4g50x2er2gar6g2ba4icg17r4g31r4g",
  "800i1a2eh2t3bm3r2g6ao26g7hcg5h5g1k19h1g5h1g1h1g2h1g2h1g6ch10s1E10I16dh10E40h2I36h7I1E20lch1m",
  "1n2E10mao6g4h3q7w2x15h2m2nah1g13h1g4h4g3h1m1h1g87h2g1h1g5eh2m5eh3g6h2g6h2g6h2g3h3g7h1g7hag3k",
  "1j3hcn1g1an1g13n1g2n1gfn2gen22g7bn5g3n4g2dn3g9n4bo2w2y1gcq1D3g1w2fg2eq82g1dq3g31qfg1cw4g1fl",
  "1w4l9g3z1bl5g2bw5g1en1g1n24o4geo2ag26l2n26l50n2gan6g24y4g24y4g28w8g34wbg1wbE1gfE1g7E1g2E1gbE",
  "1gfE1g7E1g2E3g34Hcg137w9g16wag8w18g6E1g2aE1g9E45g6n2g1n1g2cn1g2n3g1n2g1n16r1g9r3fw8g9w30g13x",
  "1g2x5g5x1ap2r3g1p1aq5g1q1aI26g38t4g2x2t10x2g2ex4o1g2o5g8o1g3o1g1bo2A2g3o4g9o1A7g9o7g20r20w",
  "20g27w4gcw9g36r3g1dr2g1br5g8r12w7g4wcg7w50g49r37g33xdg33x7g6x28A8gaA6g26H3g1dH8g2Hd0g1fr1g",
  "2aD1g3D2g2D10g3H3I8g9I21g2I1H3F28A8g2aA16g1aE26g1cD14g17B9g4es4g1es6E9g1w42r1Eag1A2g19t7gat",
  "6g35t1get3A1D8g27w9g49t4x1w2Dat1w5x1g14wbg12w1g2bw1y3F3eg7x1g1x1g4x1gfx1gbx6g3bw5gaw6g1x3w1g",
  "8w2g2w2g16w1g7w1g2w1g5w1g1A9w2g2w2g3w2g1x6g1w5g7w2g7w3g5wbgaH1g1H2g1H1g26H1gaH1g1H2g1H1g4H1g",
  "aH1g2H8g2H1dg5ay1D1y1g1y1A1B2D1eg48w8gawa6g36w2g12w14x22g45wbgaw6gdy13g38t1B1E6gat6g14H1cg",
  "1ax1A2gfx4g10x7Eb9g3cA64g53wcg1w7D2g1D2g8D1g2D1g1eD1g2D2gcD9gaD46g8B2g2eB2gbB1bg48z8g34z2B",
  "17z1A5zdg10E39w7gaF56g8I58g22HegaH6g9y1g2dy1geyag1dy3g20y2g16y1gey49g7z1g2z1g2cz3g1z1g2z1g9z",
  "8gaz6g6A1g2A1g25A1g2A1g6A7gaA6g2cI4gaIf6g19A7g11F1g29F3g1cF1H55g1Dfg32Bdg1B36fp2aw1x66g63pcw",
  "1g4p1wbgc4xa4cg63Edg42fr1F9B1dFagf9bH5g247x1ab9g3aH6c6g239s7g1fw1gaw4g2w4fE1gaE6g1ew2g6wag",
  "46wagaw1g7w1g15w5g13w1b0g3aHc6g5bA5g19I2g19I2cg45t6B4g1B2ft9B7g11t40g1y1z2B1Dbg2D5I9g17edy5A",
  "6B8I2f3y1e3D29g1H9D16I61g73I21fdg4E1g7E1g2E1g2s11dz4Efg1F1dg3B2g1Feg4B8g18cz904g6bw5gdw3g9w",
  "7gaw2g8wf5cgfaH3I3g1b4H6g17Ifg11Ifg2eE2g17E9g74E3cgf6lag27l2g1qb4lbx2E15g46o7ag14Fcg14Acg57n",
  "9g12p7A87g55l1g47l1g2l2g1l2g2l2g4l1gcl1g1l1g4l1n2l1g41l1g4l2g8l1g7l1g1cl1g4l1g5l1g1l3g7l1g",
  "152l2o2g122l2p2g32l28cxfg5x1gfx450g1fE6g6Fd5g7y1g11y2g7y1g2y1g5y5g3eF21g1F70g2dB3geB2gaB4g2B",
  "140g1fE11g3aB5g1B1d0g2aFd6g2bH4g1Hc0g1fI1g16I8g2Ie0g7E1g4E1g2E1gfE1gc5w2g10w29g4by1B4gay4g2y",
  "311g44A4cg3dBc2g4t1g1bt1g2t1g1t2g1t1gat1g4t1g1t1g1t6g1t4g1t1g1t1g1t1g3t1g2t1g1t2g1t1g1t1g1t",
  "1g1t1g1t1g2t1g1t2g4t1g7t1g4t1g4t1g1t1gat1g11t5g3t1g5t1g11t34g2t10eg2cq4g64qcgfs2ges1w1gfs1g",
  "fs16wagbr2w3D1fr1A1s1rbs1r1s1r2s1r3s1r3s5r8s1r7s1ras2t1B3D9s1r1s2r2s1ras4r2s1ras12y1D38g1as",
  "1r2sdg22r9s1y4g9r7g2seg6z9ag21scw3x6s1w46s1w2x14scw25s1w5s4w5xcw11s7w8x3fs1w1s1wb6s1w4s2w1x",
  "3es2w4t7w5x18s12w1y29w1y56w5s1t10s1t3s1t1s1t1s1t1s1t3s1t6s2t4s1t1s2t4s1tcs2w2xbs30w46saw1x2y",
  "2z1B2D1I3g1F3Edw3g4w3y2z1A1B2D3g74s3F4I5F55w4A1F6gcB4g1Efgcw4g38w8gaw6g28w8g1ew2g2DaH4g2Heg",
  "9I27gcz1D3B9x6y1z8y8z1y2zcy1Bcy1z3Afydz5A1B1D4A2D1E1A1B4A5xdy6zbA2D6B3D2BaA6B1x2A8B1D1E3B17z",
  "19A54B4I8geA2g4B1D3F3B2E3g3B4D2F1H1I3g1I1H6B13D4E3F7D4E3F1H1F3D3E1H1g1I4g1I2F7D3E2F1H2g1H8E",
  "1F1H1I4g1I7E2F7g93D1g37D25HaD1I403g2ia6d7l7D2E20g1035r4E1F6Ides2g1682xcI2g1d31zfg26eG9a2g",
  "21el5e0g2i134bD5g1060F10caIcb84g2ifffeg2ifffeg2ifffeg2ifffeg2ifffeg2ifffeg2ifffeg2ifffeg2i",
  "fffeg2ifffeg2i1g1l1eg60l80gf0nfe0eg20002i"]

/-- The runs of code points of one age. -/
def ages : List (Run (Option Version)) :=
  (runsOf 1 ageTable).map fun r => ⟨r.start, versions.lookup r.value⟩

/-- The code points that the versions up to one have given a use. -/
def assignedBy (v : Version) : CharSet := charsWhere (fun age => age.any (·.le v)) ages

/-! ## The earlier version -/

/-- The version whose properties regular expressions know. -/
def patternVersion : Version := ⟨16, 0⟩

/-- The characters that are assigned in the version of regular expressions. -/
def assigned : CharSet := assignedBy patternVersion

/-- The one character whose category has changed since, from lower-case to other letter. -/
def letterSinceRecategorized : Char := '\u0295'

/-- The characters whose category satisfies `p` in the version of regular expressions. -/
def charsIn (p : Category → Bool) : CharSet :=
  let changed := CharSet.single letterSinceRecategorized
  let now := ((Category.chars p).inter assigned).diff changed
  .unionAll [now, if p .unassigned then .complement assigned else .empty,
    if p .lowercaseLetter then changed else .empty]

end MessageRouter.Unicode
