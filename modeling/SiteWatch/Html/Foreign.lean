/-
# Names in pictures and formulas

Tags are read in small letters. In pictures and formulas some names of elements and attributes have
capitals, and some attributes belong to other languages.
-/

import SiteWatch.Html.Tree
import SiteWatch.Text.Blank

namespace SiteWatch.Html

/-- Names of elements of pictures with capitals. -/
def svgNames : List String :=
  ["altGlyph", "altGlyphDef", "altGlyphItem", "animateColor", "animateMotion", "animateTransform",
   "clipPath", "feBlend", "feColorMatrix", "feComponentTransfer", "feComposite",
   "feConvolveMatrix", "feDiffuseLighting", "feDisplacementMap", "feDistantLight",
   "feDropShadow", "feFlood", "feFuncA", "feFuncB", "feFuncG", "feFuncR", "feGaussianBlur",
   "feImage", "feMerge", "feMergeNode", "feMorphology", "feOffset", "fePointLight",
   "feSpecularLighting", "feSpotLight", "feTile", "feTurbulence", "foreignObject", "glyphRef",
   "linearGradient", "radialGradient", "textPath"]

/-- Names of attributes of pictures with capitals. -/
def svgAttributeNames : List String :=
  ["attributeName", "attributeType", "baseFrequency", "baseProfile", "calcMode", "clipPathUnits",
   "diffuseConstant", "edgeMode", "filterUnits", "glyphRef",
   "gradientTransform", "gradientUnits", "kernelMatrix", "kernelUnitLength", "keyPoints",
   "keySplines", "keyTimes", "lengthAdjust", "limitingConeAngle", "markerHeight", "markerUnits",
   "markerWidth", "maskContentUnits", "maskUnits", "numOctaves", "pathLength",
   "patternContentUnits", "patternTransform", "patternUnits", "pointsAtX", "pointsAtY",
   "pointsAtZ", "preserveAlpha", "preserveAspectRatio", "primitiveUnits", "refX", "refY",
   "repeatCount", "repeatDur", "requiredExtensions", "requiredFeatures", "specularConstant",
   "specularExponent", "spreadMethod", "startOffset", "stdDeviation", "stitchTiles",
   "surfaceScale", "systemLanguage", "tableValues", "targetX", "targetY", "textLength", "viewBox",
   "viewTarget", "xChannelSelector", "yChannelSelector", "zoomAndPan"]

/-- A name with the capitals that it has in a list. -/
def recased (names : List String) (name : String) : String :=
  (names.find? fun known => Text.asciiLower known == name).getD name

/-- Attributes that belong to other languages than the element on which they stand. -/
def borrowedAttributeNames : List String :=
  ["xlink:actuate", "xlink:arcrole", "xlink:href", "xlink:role", "xlink:show", "xlink:title",
   "xlink:type", "xml:lang", "xml:space", "xmlns:xlink"]

/-- The name under which an attribute of a picture or formula is kept. One that belongs to another
language is kept with a blank before its own name, so that no plain name finds it. -/
def foreignAttributeName (space : Namespace) (name : String) : String :=
  if name = "xmlns" then " xmlns"
  else if borrowedAttributeNames.contains name then name.map fun c => if c = ':' then ' ' else c
  else
    match space with
    | .svg => recased svgAttributeNames name
    | .math => recased ["definitionURL"] name
    | .html => name

/-- The attributes of a picture or formula under the names by which they are kept. -/
def foreignAttributes (space : Namespace) (attributes : Attributes) : Attributes :=
  attributes.map fun a => (foreignAttributeName space a.1, a.2)

end SiteWatch.Html
