/-!
# Names of properties

The loose names of properties that the standard defines and that stand for no set by themselves.
-/
namespace Stencil.Unicode

def otherPropertyNames : String := "
age bc bidiclass bidimirroringglyph bidipairedbracket bidipairedbrackettype blk block bmg bpb bpt
canonicalcombiningclass casefolding ccc ce cf changeswhennfkccasefolded cjkaccountingnumeric
cjkcompatibilityvariant cjkiicore cjkirggsource cjkirghsource cjkirgjsource cjkirgkpsource
cjkirgksource cjkirgmsource cjkirgssource cjkirgtsource cjkirguksource cjkirgusource cjkirgvsource
cjkothernumeric cjkprimarynumeric cjkrsunicode compex compositionexclusion cwkcf
decompositionmapping decompositiontype dm dt ea eastasianwidth equideo equivalentunifiedideograph
expandsonnfc expandsonnfd expandsonnfkc expandsonnfkd fcnfkc fcnfkcclosure
fullcompositionexclusion gc gcb generalcategory graphemeclusterbreak hangulsyllabletype hst incb
indicconjunctbreak indicpositionalcategory indicsyllabiccategory inpc insc isc isocomment
jamoshortname jg joininggroup joiningtype jsn jt kaccountingnumeric kcompatibilityvariant kehcat
kehdesc kehhg kehifao kehjsesh kehnomirror kehnorotate kiicore kirggsource kirghsource kirgjsource
kirgkpsource kirgksource kirgmsource kirgssource kirgtsource kirguksource kirgusource kirgvsource
kothernumeric kprimarynumeric krsunicode lb lc linebreak lowercasemapping na na1 name namealias
nfcqc nfcquickcheck nfdqc nfdquickcheck nfkccasefold nfkccf nfkcqc nfkcquickcheck nfkcscf
nfkcsimplecasefold nfkdqc nfkdquickcheck nt numerictype numericvalue nv sb sc scf script
scriptextensions scx sentencebreak sfc simplecasefolding simplelowercasemapping
simpletitlecasemapping simpleuppercasemapping slc stc suc tc titlecasemapping uc unicode1name
unicoderadicalstroke uppercasemapping urs verticalorientation vo wb wordbreak xonfc xonfd xonfkc
xonfkd"

end Stencil.Unicode
