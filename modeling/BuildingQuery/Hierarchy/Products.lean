import BuildingQuery.Hierarchy

/-! The types of products in IFC4, and of the definitions that describe them. -/

namespace BuildingQuery

/-- Roots first, each name with its supertype. -/
def Hierarchy.products : Hierarchy where
  parents := [
    ("IfcRoot", none),
    ("IfcObjectDefinition", some "IfcRoot"),
    ("IfcObject", some "IfcObjectDefinition"),
    ("IfcContext", some "IfcObjectDefinition"),
    ("IfcProject", some "IfcContext"),
    ("IfcProduct", some "IfcObject"),
    ("IfcElement", some "IfcProduct"),
    ("IfcBuildingElement", some "IfcElement"),
    ("IfcWall", some "IfcBuildingElement"),
    ("IfcWallStandardCase", some "IfcWall"),
    ("IfcWallElementedCase", some "IfcWall"),
    ("IfcCurtainWall", some "IfcBuildingElement"),
    ("IfcDoor", some "IfcBuildingElement"),
    ("IfcDoorStandardCase", some "IfcDoor"),
    ("IfcWindow", some "IfcBuildingElement"),
    ("IfcWindowStandardCase", some "IfcWindow"),
    ("IfcSlab", some "IfcBuildingElement"),
    ("IfcSlabStandardCase", some "IfcSlab"),
    ("IfcSlabElementedCase", some "IfcSlab"),
    ("IfcColumn", some "IfcBuildingElement"),
    ("IfcColumnStandardCase", some "IfcColumn"),
    ("IfcBeam", some "IfcBuildingElement"),
    ("IfcBeamStandardCase", some "IfcBeam"),
    ("IfcMember", some "IfcBuildingElement"),
    ("IfcMemberStandardCase", some "IfcMember"),
    ("IfcPlate", some "IfcBuildingElement"),
    ("IfcPlateStandardCase", some "IfcPlate"),
    ("IfcRoof", some "IfcBuildingElement"),
    ("IfcStair", some "IfcBuildingElement"),
    ("IfcStairFlight", some "IfcBuildingElement"),
    ("IfcRamp", some "IfcBuildingElement"),
    ("IfcRampFlight", some "IfcBuildingElement"),
    ("IfcRailing", some "IfcBuildingElement"),
    ("IfcCovering", some "IfcBuildingElement"),
    ("IfcFooting", some "IfcBuildingElement"),
    ("IfcPile", some "IfcBuildingElement"),
    ("IfcChimney", some "IfcBuildingElement"),
    ("IfcShadingDevice", some "IfcBuildingElement"),
    ("IfcBuildingElementProxy", some "IfcBuildingElement"),
    ("IfcFurnishingElement", some "IfcElement"),
    ("IfcFurniture", some "IfcFurnishingElement"),
    ("IfcSystemFurnitureElement", some "IfcFurnishingElement"),
    ("IfcElementAssembly", some "IfcElement"),
    ("IfcFeatureElement", some "IfcElement"),
    ("IfcFeatureElementSubtraction", some "IfcFeatureElement"),
    ("IfcOpeningElement", some "IfcFeatureElementSubtraction"),
    ("IfcOpeningStandardCase", some "IfcOpeningElement"),
    ("IfcVoidingFeature", some "IfcFeatureElementSubtraction"),
    ("IfcDistributionElement", some "IfcElement"),
    ("IfcDistributionControlElement", some "IfcDistributionElement"),
    ("IfcDistributionFlowElement", some "IfcDistributionElement"),
    ("IfcFlowSegment", some "IfcDistributionFlowElement"),
    ("IfcPipeSegment", some "IfcFlowSegment"),
    ("IfcDuctSegment", some "IfcFlowSegment"),
    ("IfcCableSegment", some "IfcFlowSegment"),
    ("IfcFlowFitting", some "IfcDistributionFlowElement"),
    ("IfcPipeFitting", some "IfcFlowFitting"),
    ("IfcDuctFitting", some "IfcFlowFitting"),
    ("IfcFlowTerminal", some "IfcDistributionFlowElement"),
    ("IfcAirTerminal", some "IfcFlowTerminal"),
    ("IfcLightFixture", some "IfcFlowTerminal"),
    ("IfcSanitaryTerminal", some "IfcFlowTerminal"),
    ("IfcFlowController", some "IfcDistributionFlowElement"),
    ("IfcValve", some "IfcFlowController"),
    ("IfcEnergyConversionDevice", some "IfcDistributionFlowElement"),
    ("IfcTransportElement", some "IfcElement"),
    ("IfcVirtualElement", some "IfcElement"),
    ("IfcCivilElement", some "IfcElement"),
    ("IfcGeographicElement", some "IfcElement"),
    ("IfcSpatialElement", some "IfcProduct"),
    ("IfcSpatialStructureElement", some "IfcSpatialElement"),
    ("IfcSite", some "IfcSpatialStructureElement"),
    ("IfcBuilding", some "IfcSpatialStructureElement"),
    ("IfcBuildingStorey", some "IfcSpatialStructureElement"),
    ("IfcSpace", some "IfcSpatialStructureElement"),
    ("IfcSpatialZone", some "IfcSpatialElement"),
    ("IfcExternalSpatialElement", some "IfcSpatialElement"),
    ("IfcAnnotation", some "IfcProduct"),
    ("IfcGrid", some "IfcProduct"),
    ("IfcProxy", some "IfcProduct"),
    ("IfcTypeObject", some "IfcObjectDefinition"),
    ("IfcTypeProduct", some "IfcTypeObject"),
    ("IfcElementType", some "IfcTypeProduct"),
    ("IfcBuildingElementType", some "IfcElementType"),
    ("IfcWallType", some "IfcBuildingElementType"),
    ("IfcDoorType", some "IfcBuildingElementType"),
    ("IfcWindowType", some "IfcBuildingElementType"),
    ("IfcSlabType", some "IfcBuildingElementType"),
    ("IfcPropertyDefinition", some "IfcRoot"),
    ("IfcPropertySetDefinition", some "IfcPropertyDefinition"),
    ("IfcPropertySet", some "IfcPropertySetDefinition"),
    ("IfcElementQuantity", some "IfcPropertySetDefinition")]

end BuildingQuery
