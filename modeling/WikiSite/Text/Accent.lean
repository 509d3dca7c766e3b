import WikiSite.Text.Basic

/-!
# Accents

The plain letter under a Latin letter with an accent, a stroke or a hook, so that a search for `cafe` finds `café`.
-/

namespace WikiSite

/-- The variants of every letter that has some. -/
def letterVariants : List (Char × String) :=
  [('A', "ÀÁÂÃÄÅĀĂĄǍǞǠǺȀȂȦḀẠẢẤẦẨẪẬẮẰẲẴẶÅ"),
   ('a', "àáâãäåāăąǎǟǡǻȁȃȧḁạảấầẩẫậắằẳẵặ"),
   ('B', "ƁƂḂḄḆ"),
   ('b', "ƀƃḃḅḇ"),
   ('C', "ÇĆĈĊČƇḈ"),
   ('c', "çćĉċčƈḉ"),
   ('D', "ĎĐƉƊḊḌḎḐḒ"),
   ('d', "ďđḋḍḏḑḓ"),
   ('E', "ÈÉÊËĒĔĖĘĚȄȆȨḔḖḘḚḜẸẺẼẾỀỂỄỆ"),
   ('e', "èéêëēĕėęěȅȇȩḕḗḙḛḝẹẻẽếềểễệ"),
   ('F', "ƑḞ"),
   ('f', "ƒḟ"),
   ('G', "ĜĞĠĢƓǤǦǴḠ"),
   ('g', "ĝğġģǥǧǵḡ"),
   ('H', "ĤĦȞḢḤḦḨḪ"),
   ('h', "ĥħȟḣḥḧḩḫẖ"),
   ('I', "ÌÍÎÏĨĪĬĮİƗǏȈȊḬḮỈỊ"),
   ('i', "ìíîïĩīĭįıǐȉȋḭḯỉị"),
   ('J', "Ĵ"),
   ('j', "ĵǰ"),
   ('K', "ĶƘǨḰḲḴ"),
   ('k', "ķƙǩḱḳḵ"),
   ('L', "ĹĻĽŁḶḸḺḼ"),
   ('l', "ĺļľłƚḷḹḻḽ"),
   ('M', "ḾṀṂ"),
   ('m', "ḿṁṃ"),
   ('N', "ÑŃŅŇƝǸṄṆṈṊ"),
   ('n', "ñńņňƞǹṅṇṉṋ"),
   ('O', "ÒÓÔÕÖØŌŎŐƠǑǪǬȌȎȪȬȮȰṌṎṐṒỌỎỐỒỔỖỘỚỜỞỠỢ"),
   ('o', "òóôõöøōŏőơǒǫǭȍȏȫȭȯȱṍṏṑṓọỏốồổỗộớờởỡợ"),
   ('P', "ƤṔṖ"),
   ('p', "ƥṕṗ"),
   ('R', "ŔŖŘȐȒṘṚṜṞ"),
   ('r', "ŕŗřȑȓṙṛṝṟ"),
   ('S', "ŚŜŞŠȘṠṢṤṦṨ"),
   ('s', "ßśŝşšșṡṣṥṧṩ"),
   ('T', "ŢŤŦƬƮȚṪṬṮṰ"),
   ('t', "ţťŧƫƭțṫṭṯṱẗ"),
   ('U', "ÙÚÛÜŨŪŬŮŰŲƯǓǕǗǙǛȔȖṲṴṶṸṺỤỦỨỪỬỮỰ"),
   ('u', "ùúûüũūŭůűųưǔǖǘǚǜȕȗṳṵṷṹṻụủứừửữự"),
   ('V', "ƲṼṾ"),
   ('v', "ṽṿ"),
   ('W', "ŴẀẂẄẆẈ"),
   ('w', "ŵẁẃẅẇẉẘ"),
   ('X', "ẊẌ"),
   ('x', "ẋẍ"),
   ('Y', "ÝŶŸƳȲẎỲỴỶỸ"),
   ('y', "ýÿŷƴȳẏẙỳỵỷỹ"),
   ('Z', "ŹŻŽƵẐẒẔ"),
   ('z', "źżžƶẑẓẕ")]

/-- The plain letter of an accented one; any other character is itself. -/
def plainLetter (c : Char) : Char :=
  if c.toNat < 0xC0 || 0x2184 < c.toNat then c
  else
    match letterVariants.find? fun v => v.2.toList.contains c with
    | some v => v.1
    | none => c

end WikiSite
