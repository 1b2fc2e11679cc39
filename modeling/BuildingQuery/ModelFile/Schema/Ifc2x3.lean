import BuildingQuery.ModelFile.Schema

/-! The classes of IFC 2x3 and the attributes of its products. -/

namespace BuildingQuery.Ifc2x3

/-- Classes that are kinds of nothing. -/
def roots : List String := [
  "IfcActorRole", "IfcAddress", "IfcApplication", "IfcAppliedValue",
  "IfcAppliedValueRelationship", "IfcApproval", "IfcApprovalActorRelationship",
  "IfcApprovalPropertyRelationship", "IfcApprovalRelationship", "IfcBoundaryCondition",
  "IfcCalendarDate", "IfcClassification", "IfcClassificationItem",
  "IfcClassificationItemRelationship", "IfcClassificationNotation",
  "IfcClassificationNotationFacet", "IfcColourSpecification", "IfcConnectionGeometry",
  "IfcConstraint", "IfcConstraintAggregationRelationship",
  "IfcConstraintClassificationRelationship", "IfcConstraintRelationship",
  "IfcCoordinatedUniversalTimeOffset", "IfcCurrencyRelationship", "IfcCurveStyleFont",
  "IfcCurveStyleFontAndScaling", "IfcCurveStyleFontPattern", "IfcDateAndTime", "IfcDerivedUnit",
  "IfcDerivedUnitElement", "IfcDimensionalExponents", "IfcDocumentElectronicFormat",
  "IfcDocumentInformation", "IfcDocumentInformationRelationship",
  "IfcDraughtingCalloutRelationship", "IfcExternalReference", "IfcGridAxis",
  "IfcIrregularTimeSeriesValue", "IfcLibraryInformation", "IfcLightDistributionData",
  "IfcLightIntensityDistribution", "IfcLocalTime", "IfcMaterial",
  "IfcMaterialClassificationRelationship", "IfcMaterialLayer", "IfcMaterialLayerSet",
  "IfcMaterialLayerSetUsage", "IfcMaterialList", "IfcMaterialProperties", "IfcMeasureWithUnit",
  "IfcMonetaryUnit", "IfcNamedUnit", "IfcObjectPlacement", "IfcOrganization",
  "IfcOrganizationRelationship", "IfcOwnerHistory", "IfcPerson", "IfcPersonAndOrganization",
  "IfcPhysicalQuantity", "IfcPreDefinedItem", "IfcPresentationLayerAssignment",
  "IfcPresentationStyle", "IfcPresentationStyleAssignment", "IfcProductRepresentation",
  "IfcProfileDef", "IfcProfileProperties", "IfcProperty", "IfcPropertyConstraintRelationship",
  "IfcPropertyDependencyRelationship", "IfcPropertyEnumeration", "IfcReferencesValueDocument",
  "IfcReinforcementBarProperties", "IfcRelaxation", "IfcRepresentation",
  "IfcRepresentationContext", "IfcRepresentationItem", "IfcRepresentationMap", "IfcRoot",
  "IfcSectionProperties", "IfcSectionReinforcementProperties", "IfcShapeAspect",
  "IfcStructuralConnectionCondition", "IfcStructuralLoad", "IfcSurfaceStyleLighting",
  "IfcSurfaceStyleRefraction", "IfcSurfaceStyleShading", "IfcSurfaceStyleWithTextures",
  "IfcSurfaceTexture", "IfcTable", "IfcTableRow", "IfcTextStyleForDefinedFont",
  "IfcTextStyleTextModel", "IfcTextStyleWithBoxCharacteristics", "IfcTextureCoordinate",
  "IfcTextureVertex", "IfcTimeSeries", "IfcTimeSeriesReferenceRelationship",
  "IfcTimeSeriesValue", "IfcUnitAssignment", "IfcVertexBasedTextureMap",
  "IfcVirtualGridIntersection"]

/-- Objects that are no products. -/
def objects : List (String × List String) := [
  ("IfcRoot", ["IfcObjectDefinition", "IfcPropertyDefinition", "IfcRelationship"]),
  ("IfcObjectDefinition", ["IfcObject", "IfcTypeObject"]),
  ("IfcObject", ["IfcActor", "IfcControl", "IfcGroup", "IfcProcess", "IfcProduct", "IfcProject",
    "IfcResource"]),
  ("IfcActor", ["IfcOccupant"]),
  ("IfcControl", ["IfcActionRequest", "IfcConditionCriterion", "IfcCostItem", "IfcCostSchedule",
    "IfcEquipmentStandard", "IfcFurnitureStandard", "IfcPerformanceHistory", "IfcPermit",
    "IfcProjectOrder", "IfcProjectOrderRecord", "IfcScheduleTimeControl", "IfcServiceLife",
    "IfcSpaceProgram", "IfcTimeSeriesSchedule", "IfcWorkControl"]),
  ("IfcWorkControl", ["IfcWorkPlan", "IfcWorkSchedule"]),
  ("IfcGroup", ["IfcAsset", "IfcCondition", "IfcInventory", "IfcStructuralLoadGroup",
    "IfcStructuralResultGroup", "IfcSystem", "IfcZone"]),
  ("IfcSystem", ["IfcElectricalCircuit", "IfcStructuralAnalysisModel"]),
  ("IfcProcess", ["IfcProcedure", "IfcTask"]),
  ("IfcTask", ["IfcMove", "IfcOrderAction"]),
  ("IfcResource", ["IfcConstructionResource"]),
  ("IfcConstructionResource", ["IfcConstructionEquipmentResource",
    "IfcConstructionMaterialResource", "IfcConstructionProductResource", "IfcCrewResource",
    "IfcLaborResource", "IfcSubContractResource"])]

/-- Products: all that has a place. -/
def products : List (String × List String) := [
  ("IfcProduct", ["IfcAnnotation", "IfcElement", "IfcGrid", "IfcPort", "IfcProxy",
    "IfcSpatialStructureElement", "IfcStructuralActivity", "IfcStructuralItem"]),
  ("IfcElement", ["IfcBuildingElement", "IfcDistributionElement", "IfcElectricalElement",
    "IfcElementAssembly", "IfcElementComponent", "IfcEquipmentElement", "IfcFeatureElement",
    "IfcFurnishingElement", "IfcTransportElement", "IfcVirtualElement"]),
  ("IfcBuildingElement", ["IfcBeam", "IfcBuildingElementComponent", "IfcBuildingElementProxy",
    "IfcColumn", "IfcCovering", "IfcCurtainWall", "IfcDoor", "IfcFooting", "IfcMember",
    "IfcPile", "IfcPlate", "IfcRailing", "IfcRamp", "IfcRampFlight", "IfcRoof", "IfcSlab",
    "IfcStair", "IfcStairFlight", "IfcWall", "IfcWindow"]),
  ("IfcBuildingElementComponent", ["IfcBuildingElementPart", "IfcReinforcingElement"]),
  ("IfcReinforcingElement", ["IfcReinforcingBar", "IfcReinforcingMesh", "IfcTendon",
    "IfcTendonAnchor"]),
  ("IfcWall", ["IfcWallStandardCase"]),
  ("IfcDistributionElement", ["IfcDistributionControlElement", "IfcDistributionFlowElement"]),
  ("IfcDistributionFlowElement", ["IfcDistributionChamberElement", "IfcEnergyConversionDevice",
    "IfcFlowController", "IfcFlowFitting", "IfcFlowMovingDevice", "IfcFlowSegment",
    "IfcFlowStorageDevice", "IfcFlowTerminal", "IfcFlowTreatmentDevice"]),
  ("IfcFlowController", ["IfcElectricDistributionPoint"]),
  ("IfcElementComponent", ["IfcDiscreteAccessory", "IfcFastener"]),
  ("IfcFastener", ["IfcMechanicalFastener"]),
  ("IfcFeatureElement", ["IfcFeatureElementAddition", "IfcFeatureElementSubtraction"]),
  ("IfcFeatureElementAddition", ["IfcProjectionElement"]),
  ("IfcFeatureElementSubtraction", ["IfcEdgeFeature", "IfcOpeningElement"]),
  ("IfcEdgeFeature", ["IfcChamferEdgeFeature", "IfcRoundedEdgeFeature"]),
  ("IfcPort", ["IfcDistributionPort"]),
  ("IfcSpatialStructureElement", ["IfcBuilding", "IfcBuildingStorey", "IfcSite", "IfcSpace"]),
  ("IfcStructuralActivity", ["IfcStructuralAction", "IfcStructuralReaction"]),
  ("IfcStructuralAction", ["IfcStructuralLinearAction", "IfcStructuralPlanarAction",
    "IfcStructuralPointAction"]),
  ("IfcStructuralLinearAction", ["IfcStructuralLinearActionVarying"]),
  ("IfcStructuralPlanarAction", ["IfcStructuralPlanarActionVarying"]),
  ("IfcStructuralReaction", ["IfcStructuralPointReaction"]),
  ("IfcStructuralItem", ["IfcStructuralConnection", "IfcStructuralMember"]),
  ("IfcStructuralConnection", ["IfcStructuralCurveConnection", "IfcStructuralPointConnection",
    "IfcStructuralSurfaceConnection"]),
  ("IfcStructuralMember", ["IfcStructuralCurveMember", "IfcStructuralSurfaceMember"]),
  ("IfcStructuralCurveMember", ["IfcStructuralCurveMemberVarying"]),
  ("IfcStructuralSurfaceMember", ["IfcStructuralSurfaceMemberVarying"])]

/-- What objects of one kind have in common. -/
def typeObjects : List (String × List String) := [
  ("IfcTypeObject", ["IfcTypeProduct"]),
  ("IfcTypeProduct", ["IfcDoorStyle", "IfcElementType", "IfcWindowStyle"]),
  ("IfcElementType", ["IfcBuildingElementType", "IfcDistributionElementType",
    "IfcElementComponentType", "IfcFurnishingElementType", "IfcSpatialStructureElementType",
    "IfcTransportElementType"]),
  ("IfcBuildingElementType", ["IfcBeamType", "IfcBuildingElementProxyType", "IfcColumnType",
    "IfcCoveringType", "IfcCurtainWallType", "IfcMemberType", "IfcPlateType", "IfcRailingType",
    "IfcRampFlightType", "IfcSlabType", "IfcStairFlightType", "IfcWallType"]),
  ("IfcDistributionElementType", ["IfcDistributionControlElementType",
    "IfcDistributionFlowElementType"]),
  ("IfcDistributionControlElementType", ["IfcActuatorType", "IfcAlarmType", "IfcControllerType",
    "IfcFlowInstrumentType", "IfcSensorType"]),
  ("IfcDistributionFlowElementType", ["IfcDistributionChamberElementType",
    "IfcEnergyConversionDeviceType", "IfcFlowControllerType", "IfcFlowFittingType",
    "IfcFlowMovingDeviceType", "IfcFlowSegmentType", "IfcFlowStorageDeviceType",
    "IfcFlowTerminalType", "IfcFlowTreatmentDeviceType"]),
  ("IfcEnergyConversionDeviceType", ["IfcAirToAirHeatRecoveryType", "IfcBoilerType",
    "IfcChillerType", "IfcCoilType", "IfcCondenserType", "IfcCooledBeamType",
    "IfcCoolingTowerType", "IfcElectricGeneratorType", "IfcElectricMotorType",
    "IfcEvaporativeCoolerType", "IfcEvaporatorType", "IfcHeatExchangerType",
    "IfcHumidifierType", "IfcMotorConnectionType", "IfcSpaceHeaterType", "IfcTransformerType",
    "IfcTubeBundleType", "IfcUnitaryEquipmentType"]),
  ("IfcFlowControllerType", ["IfcAirTerminalBoxType", "IfcDamperType",
    "IfcElectricTimeControlType", "IfcFlowMeterType", "IfcProtectiveDeviceType",
    "IfcSwitchingDeviceType", "IfcValveType"]),
  ("IfcFlowFittingType", ["IfcCableCarrierFittingType", "IfcDuctFittingType",
    "IfcJunctionBoxType", "IfcPipeFittingType"]),
  ("IfcFlowMovingDeviceType", ["IfcCompressorType", "IfcFanType", "IfcPumpType"]),
  ("IfcFlowSegmentType", ["IfcCableCarrierSegmentType", "IfcCableSegmentType",
    "IfcDuctSegmentType", "IfcPipeSegmentType"]),
  ("IfcFlowStorageDeviceType", ["IfcElectricFlowStorageDeviceType", "IfcTankType"]),
  ("IfcFlowTerminalType", ["IfcAirTerminalType", "IfcElectricApplianceType",
    "IfcElectricHeaterType", "IfcFireSuppressionTerminalType", "IfcGasTerminalType",
    "IfcLampType", "IfcLightFixtureType", "IfcOutletType", "IfcSanitaryTerminalType",
    "IfcStackTerminalType", "IfcWasteTerminalType"]),
  ("IfcFlowTreatmentDeviceType", ["IfcDuctSilencerType", "IfcFilterType"]),
  ("IfcElementComponentType", ["IfcDiscreteAccessoryType", "IfcFastenerType"]),
  ("IfcDiscreteAccessoryType", ["IfcVibrationIsolatorType"]),
  ("IfcFastenerType", ["IfcMechanicalFastenerType"]),
  ("IfcFurnishingElementType", ["IfcFurnitureType", "IfcSystemFurnitureElementType"]),
  ("IfcSpatialStructureElementType", ["IfcSpaceType"])]

/-- Sets of properties, and what relates objects. -/
def relations : List (String × List String) := [
  ("IfcPropertyDefinition", ["IfcPropertySetDefinition"]),
  ("IfcPropertySetDefinition", ["IfcDoorLiningProperties", "IfcDoorPanelProperties",
    "IfcElementQuantity", "IfcEnergyProperties", "IfcFluidFlowProperties",
    "IfcPermeableCoveringProperties", "IfcPropertySet", "IfcReinforcementDefinitionProperties",
    "IfcServiceLifeFactor", "IfcSoundProperties", "IfcSoundValue",
    "IfcSpaceThermalLoadProperties", "IfcWindowLiningProperties", "IfcWindowPanelProperties"]),
  ("IfcEnergyProperties", ["IfcElectricalBaseProperties"]),
  ("IfcRelationship", ["IfcRelAssigns", "IfcRelAssociates", "IfcRelConnects",
    "IfcRelDecomposes", "IfcRelDefines"]),
  ("IfcRelAssigns", ["IfcRelAssignsToActor", "IfcRelAssignsToControl", "IfcRelAssignsToGroup",
    "IfcRelAssignsToProcess", "IfcRelAssignsToProduct", "IfcRelAssignsToResource"]),
  ("IfcRelAssignsToActor", ["IfcRelOccupiesSpaces"]),
  ("IfcRelAssignsToControl", ["IfcRelAssignsTasks", "IfcRelAssignsToProjectOrder",
    "IfcRelSchedulesCostItems"]),
  ("IfcRelAssociates", ["IfcRelAssociatesAppliedValue", "IfcRelAssociatesApproval",
    "IfcRelAssociatesClassification", "IfcRelAssociatesConstraint", "IfcRelAssociatesDocument",
    "IfcRelAssociatesLibrary", "IfcRelAssociatesMaterial", "IfcRelAssociatesProfileProperties"]),
  ("IfcRelConnects", ["IfcRelConnectsElements", "IfcRelConnectsPortToElement",
    "IfcRelConnectsPorts", "IfcRelConnectsStructuralActivity",
    "IfcRelConnectsStructuralElement", "IfcRelConnectsStructuralMember",
    "IfcRelContainedInSpatialStructure", "IfcRelCoversBldgElements", "IfcRelCoversSpaces",
    "IfcRelFillsElement", "IfcRelFlowControlElements", "IfcRelInteractionRequirements",
    "IfcRelProjectsElement", "IfcRelReferencedInSpatialStructure", "IfcRelSequence",
    "IfcRelServicesBuildings", "IfcRelSpaceBoundary", "IfcRelVoidsElement"]),
  ("IfcRelConnectsElements", ["IfcRelConnectsPathElements",
    "IfcRelConnectsWithRealizingElements"]),
  ("IfcRelConnectsStructuralMember", ["IfcRelConnectsWithEccentricity"]),
  ("IfcRelDecomposes", ["IfcRelAggregates", "IfcRelNests"]),
  ("IfcRelDefines", ["IfcRelDefinesByProperties", "IfcRelDefinesByType"]),
  ("IfcRelDefinesByProperties", ["IfcRelOverridesProperties"])]

/-- Parts of the description of objects, which have no identity of their own. -/
def resources : List (String × List String) := [
  ("IfcAddress", ["IfcPostalAddress", "IfcTelecomAddress"]),
  ("IfcAppliedValue", ["IfcCostValue", "IfcEnvironmentalImpactValue"]),
  ("IfcBoundaryCondition", ["IfcBoundaryEdgeCondition", "IfcBoundaryFaceCondition",
    "IfcBoundaryNodeCondition"]),
  ("IfcBoundaryNodeCondition", ["IfcBoundaryNodeConditionWarping"]),
  ("IfcColourSpecification", ["IfcColourRgb"]),
  ("IfcConnectionGeometry", ["IfcConnectionCurveGeometry", "IfcConnectionPointGeometry",
    "IfcConnectionPortGeometry", "IfcConnectionSurfaceGeometry"]),
  ("IfcConnectionPointGeometry", ["IfcConnectionPointEccentricity"]),
  ("IfcConstraint", ["IfcMetric", "IfcObjective"]),
  ("IfcDraughtingCalloutRelationship", ["IfcDimensionCalloutRelationship", "IfcDimensionPair"]),
  ("IfcExternalReference", ["IfcClassificationReference", "IfcDocumentReference",
    "IfcExternallyDefinedHatchStyle", "IfcExternallyDefinedSurfaceStyle",
    "IfcExternallyDefinedSymbol", "IfcExternallyDefinedTextFont", "IfcLibraryReference"]),
  ("IfcMaterialProperties", ["IfcExtendedMaterialProperties", "IfcFuelProperties",
    "IfcGeneralMaterialProperties", "IfcHygroscopicMaterialProperties",
    "IfcMechanicalMaterialProperties", "IfcOpticalMaterialProperties",
    "IfcProductsOfCombustionProperties", "IfcThermalMaterialProperties", "IfcWaterProperties"]),
  ("IfcMechanicalMaterialProperties", ["IfcMechanicalConcreteMaterialProperties",
    "IfcMechanicalSteelMaterialProperties"]),
  ("IfcNamedUnit", ["IfcContextDependentUnit", "IfcConversionBasedUnit", "IfcSIUnit"]),
  ("IfcObjectPlacement", ["IfcGridPlacement", "IfcLocalPlacement"]),
  ("IfcPhysicalQuantity", ["IfcPhysicalComplexQuantity", "IfcPhysicalSimpleQuantity"]),
  ("IfcPhysicalSimpleQuantity", ["IfcQuantityArea", "IfcQuantityCount", "IfcQuantityLength",
    "IfcQuantityTime", "IfcQuantityVolume", "IfcQuantityWeight"]),
  ("IfcPreDefinedItem", ["IfcPreDefinedColour", "IfcPreDefinedCurveFont", "IfcPreDefinedSymbol",
    "IfcPreDefinedTextFont"]),
  ("IfcPreDefinedColour", ["IfcDraughtingPreDefinedColour"]),
  ("IfcPreDefinedCurveFont", ["IfcDraughtingPreDefinedCurveFont"]),
  ("IfcPreDefinedSymbol", ["IfcPreDefinedDimensionSymbol", "IfcPreDefinedPointMarkerSymbol",
    "IfcPreDefinedTerminatorSymbol"]),
  ("IfcPreDefinedTextFont", ["IfcDraughtingPreDefinedTextFont", "IfcTextStyleFontModel"]),
  ("IfcPresentationLayerAssignment", ["IfcPresentationLayerWithStyle"]),
  ("IfcPresentationStyle", ["IfcCurveStyle", "IfcFillAreaStyle", "IfcSurfaceStyle",
    "IfcSymbolStyle", "IfcTextStyle"]),
  ("IfcProductRepresentation", ["IfcMaterialDefinitionRepresentation",
    "IfcProductDefinitionShape"]),
  ("IfcProfileDef", ["IfcArbitraryClosedProfileDef", "IfcArbitraryOpenProfileDef",
    "IfcCompositeProfileDef", "IfcDerivedProfileDef", "IfcParameterizedProfileDef"]),
  ("IfcArbitraryClosedProfileDef", ["IfcArbitraryProfileDefWithVoids"]),
  ("IfcArbitraryOpenProfileDef", ["IfcCenterLineProfileDef"]),
  ("IfcParameterizedProfileDef", ["IfcCShapeProfileDef", "IfcCircleProfileDef",
    "IfcCraneRailAShapeProfileDef", "IfcCraneRailFShapeProfileDef", "IfcEllipseProfileDef",
    "IfcIShapeProfileDef", "IfcLShapeProfileDef", "IfcRectangleProfileDef",
    "IfcTShapeProfileDef", "IfcTrapeziumProfileDef", "IfcUShapeProfileDef",
    "IfcZShapeProfileDef"]),
  ("IfcCircleProfileDef", ["IfcCircleHollowProfileDef"]),
  ("IfcIShapeProfileDef", ["IfcAsymmetricIShapeProfileDef"]),
  ("IfcRectangleProfileDef", ["IfcRectangleHollowProfileDef", "IfcRoundedRectangleProfileDef"]),
  ("IfcProfileProperties", ["IfcGeneralProfileProperties", "IfcRibPlateProfileProperties"]),
  ("IfcGeneralProfileProperties", ["IfcStructuralProfileProperties"]),
  ("IfcStructuralProfileProperties", ["IfcStructuralSteelProfileProperties"]),
  ("IfcProperty", ["IfcComplexProperty", "IfcSimpleProperty"]),
  ("IfcSimpleProperty", ["IfcPropertyBoundedValue", "IfcPropertyEnumeratedValue",
    "IfcPropertyListValue", "IfcPropertyReferenceValue", "IfcPropertySingleValue",
    "IfcPropertyTableValue"]),
  ("IfcRepresentation", ["IfcShapeModel", "IfcStyleModel"]),
  ("IfcShapeModel", ["IfcShapeRepresentation", "IfcTopologyRepresentation"]),
  ("IfcStyleModel", ["IfcStyledRepresentation"]),
  ("IfcRepresentationContext", ["IfcGeometricRepresentationContext"]),
  ("IfcGeometricRepresentationContext", ["IfcGeometricRepresentationSubContext"]),
  ("IfcRepresentationItem", ["IfcGeometricRepresentationItem", "IfcMappedItem", "IfcStyledItem",
    "IfcTopologicalRepresentationItem"]),
  ("IfcGeometricRepresentationItem", ["IfcAnnotationFillArea", "IfcAnnotationSurface",
    "IfcBooleanResult", "IfcBoundingBox", "IfcCartesianTransformationOperator",
    "IfcCompositeCurveSegment", "IfcCsgPrimitive3D", "IfcCurve", "IfcDefinedSymbol",
    "IfcDirection", "IfcDraughtingCallout", "IfcFaceBasedSurfaceModel",
    "IfcFillAreaStyleHatching", "IfcFillAreaStyleTileSymbolWithStyle", "IfcFillAreaStyleTiles",
    "IfcGeometricSet", "IfcHalfSpaceSolid", "IfcLightSource", "IfcOneDirectionRepeatFactor",
    "IfcPlacement", "IfcPlanarExtent", "IfcPoint", "IfcSectionedSpine",
    "IfcShellBasedSurfaceModel", "IfcSolidModel", "IfcSurface", "IfcTextLiteral", "IfcVector"]),
  ("IfcBooleanResult", ["IfcBooleanClippingResult"]),
  ("IfcCartesianTransformationOperator", ["IfcCartesianTransformationOperator2D",
    "IfcCartesianTransformationOperator3D"]),
  ("IfcCartesianTransformationOperator2D", ["IfcCartesianTransformationOperator2DnonUniform"]),
  ("IfcCartesianTransformationOperator3D", ["IfcCartesianTransformationOperator3DnonUniform"]),
  ("IfcCsgPrimitive3D", ["IfcBlock", "IfcRectangularPyramid", "IfcRightCircularCone",
    "IfcRightCircularCylinder", "IfcSphere"]),
  ("IfcCurve", ["IfcBoundedCurve", "IfcConic", "IfcLine", "IfcOffsetCurve2D", "IfcOffsetCurve3D"]),
  ("IfcBoundedCurve", ["IfcBSplineCurve", "IfcCompositeCurve", "IfcPolyline", "IfcTrimmedCurve"]),
  ("IfcBSplineCurve", ["IfcBezierCurve"]),
  ("IfcBezierCurve", ["IfcRationalBezierCurve"]),
  ("IfcCompositeCurve", ["Ifc2DCompositeCurve"]),
  ("IfcConic", ["IfcCircle", "IfcEllipse"]),
  ("IfcDraughtingCallout", ["IfcDimensionCurveDirectedCallout", "IfcStructuredDimensionCallout"]),
  ("IfcDimensionCurveDirectedCallout", ["IfcAngularDimension", "IfcDiameterDimension",
    "IfcLinearDimension", "IfcRadiusDimension"]),
  ("IfcGeometricSet", ["IfcGeometricCurveSet"]),
  ("IfcHalfSpaceSolid", ["IfcBoxedHalfSpace", "IfcPolygonalBoundedHalfSpace"]),
  ("IfcLightSource", ["IfcLightSourceAmbient", "IfcLightSourceDirectional",
    "IfcLightSourceGoniometric", "IfcLightSourcePositional"]),
  ("IfcLightSourcePositional", ["IfcLightSourceSpot"]),
  ("IfcOneDirectionRepeatFactor", ["IfcTwoDirectionRepeatFactor"]),
  ("IfcPlacement", ["IfcAxis1Placement", "IfcAxis2Placement2D", "IfcAxis2Placement3D"]),
  ("IfcPlanarExtent", ["IfcPlanarBox"]),
  ("IfcPoint", ["IfcCartesianPoint", "IfcPointOnCurve", "IfcPointOnSurface"]),
  ("IfcSolidModel", ["IfcCsgSolid", "IfcManifoldSolidBrep", "IfcSweptAreaSolid",
    "IfcSweptDiskSolid"]),
  ("IfcManifoldSolidBrep", ["IfcFacetedBrep", "IfcFacetedBrepWithVoids"]),
  ("IfcSweptAreaSolid", ["IfcExtrudedAreaSolid", "IfcRevolvedAreaSolid",
    "IfcSurfaceCurveSweptAreaSolid"]),
  ("IfcSurface", ["IfcBoundedSurface", "IfcElementarySurface", "IfcSweptSurface"]),
  ("IfcBoundedSurface", ["IfcCurveBoundedPlane", "IfcRectangularTrimmedSurface"]),
  ("IfcElementarySurface", ["IfcPlane"]),
  ("IfcSweptSurface", ["IfcSurfaceOfLinearExtrusion", "IfcSurfaceOfRevolution"]),
  ("IfcTextLiteral", ["IfcTextLiteralWithExtent"]),
  ("IfcStyledItem", ["IfcAnnotationOccurrence"]),
  ("IfcAnnotationOccurrence", ["IfcAnnotationCurveOccurrence",
    "IfcAnnotationFillAreaOccurrence", "IfcAnnotationSurfaceOccurrence",
    "IfcAnnotationSymbolOccurrence", "IfcAnnotationTextOccurrence"]),
  ("IfcAnnotationCurveOccurrence", ["IfcDimensionCurve", "IfcProjectionCurve"]),
  ("IfcAnnotationSymbolOccurrence", ["IfcTerminatorSymbol"]),
  ("IfcTerminatorSymbol", ["IfcDimensionCurveTerminator"]),
  ("IfcTopologicalRepresentationItem", ["IfcConnectedFaceSet", "IfcEdge", "IfcFace",
    "IfcFaceBound", "IfcLoop", "IfcPath", "IfcVertex"]),
  ("IfcConnectedFaceSet", ["IfcClosedShell", "IfcOpenShell"]),
  ("IfcEdge", ["IfcEdgeCurve", "IfcOrientedEdge", "IfcSubedge"]),
  ("IfcFace", ["IfcFaceSurface"]),
  ("IfcFaceBound", ["IfcFaceOuterBound"]),
  ("IfcLoop", ["IfcEdgeLoop", "IfcPolyLoop", "IfcVertexLoop"]),
  ("IfcVertex", ["IfcVertexPoint"]),
  ("IfcStructuralConnectionCondition", ["IfcFailureConnectionCondition",
    "IfcSlippageConnectionCondition"]),
  ("IfcStructuralLoad", ["IfcStructuralLoadStatic"]),
  ("IfcStructuralLoadStatic", ["IfcStructuralLoadLinearForce", "IfcStructuralLoadPlanarForce",
    "IfcStructuralLoadSingleDisplacement", "IfcStructuralLoadSingleForce",
    "IfcStructuralLoadTemperature"]),
  ("IfcStructuralLoadSingleDisplacement", ["IfcStructuralLoadSingleDisplacementDistortion"]),
  ("IfcStructuralLoadSingleForce", ["IfcStructuralLoadSingleForceWarping"]),
  ("IfcSurfaceStyleShading", ["IfcSurfaceStyleRendering"]),
  ("IfcSurfaceTexture", ["IfcBlobTexture", "IfcImageTexture", "IfcPixelTexture"]),
  ("IfcTextureCoordinate", ["IfcTextureCoordinateGenerator", "IfcTextureMap"]),
  ("IfcTimeSeries", ["IfcIrregularTimeSeries", "IfcRegularTimeSeries"])]

/-- The attributes that a class adds to those of its supertypes. -/
def attributes : List (String × List String) := [
  ("IfcRoot", ["GlobalId", "OwnerHistory", "Name", "Description"]),
  ("IfcObject", ["ObjectType"]),
  ("IfcProduct", ["ObjectPlacement", "Representation"]),
  ("IfcElement", ["Tag"]),
  ("IfcProxy", ["ProxyType", "Tag"]),
  ("IfcGrid", ["UAxes", "VAxes", "WAxes"]),
  ("IfcDistributionPort", ["FlowDirection"]),
  ("IfcSpatialStructureElement", ["LongName", "CompositionType"]),
  ("IfcBuilding", ["ElevationOfRefHeight", "ElevationOfTerrain", "BuildingAddress"]),
  ("IfcBuildingStorey", ["Elevation"]),
  ("IfcSite", ["RefLatitude", "RefLongitude", "RefElevation", "LandTitleNumber", "SiteAddress"]),
  ("IfcSpace", ["InteriorOrExteriorSpace", "ElevationWithFlooring"]),
  ("IfcBuildingElementProxy", ["CompositionType"]),
  ("IfcCovering", ["PredefinedType"]),
  ("IfcDoor", ["OverallHeight", "OverallWidth"]),
  ("IfcFooting", ["PredefinedType"]),
  ("IfcPile", ["PredefinedType", "ConstructionType"]),
  ("IfcRailing", ["PredefinedType"]),
  ("IfcRamp", ["ShapeType"]),
  ("IfcRoof", ["ShapeType"]),
  ("IfcSlab", ["PredefinedType"]),
  ("IfcStair", ["ShapeType"]),
  ("IfcStairFlight", ["NumberOfRiser", "NumberOfTreads", "RiserHeight", "TreadLength"]),
  ("IfcWindow", ["OverallHeight", "OverallWidth"]),
  ("IfcReinforcingElement", ["SteelGrade"]),
  ("IfcReinforcingBar", ["NominalDiameter", "CrossSectionArea", "BarLength", "BarRole",
    "BarSurface"]),
  ("IfcReinforcingMesh", ["MeshLength", "MeshWidth", "LongitudinalBarNominalDiameter",
    "TransverseBarNominalDiameter", "LongitudinalBarCrossSectionArea",
    "TransverseBarCrossSectionArea", "LongitudinalBarSpacing", "TransverseBarSpacing"]),
  ("IfcTendon", ["PredefinedType", "NominalDiameter", "CrossSectionArea", "TensionForce",
    "PreStress", "FrictionCoefficient", "AnchorageSlip", "MinCurvatureRadius"]),
  ("IfcDistributionControlElement", ["ControlElementId"]),
  ("IfcElectricDistributionPoint", ["DistributionPointFunction", "UserDefinedFunction"]),
  ("IfcElementAssembly", ["AssemblyPlace", "PredefinedType"]),
  ("IfcMechanicalFastener", ["NominalDiameter", "NominalLength"]),
  ("IfcEdgeFeature", ["FeatureLength"]),
  ("IfcChamferEdgeFeature", ["Width", "Height"]),
  ("IfcRoundedEdgeFeature", ["Radius"]),
  ("IfcTransportElement", ["OperationType", "CapacityByWeight", "CapacityByNumber"]),
  ("IfcStructuralActivity", ["AppliedLoad", "GlobalOrLocal"]),
  ("IfcStructuralAction", ["DestabilizingLoad", "CausedBy"]),
  ("IfcStructuralLinearAction", ["ProjectedOrTrue"]),
  ("IfcStructuralLinearActionVarying", ["VaryingAppliedLoadLocation", "SubsequentAppliedLoads"]),
  ("IfcStructuralPlanarAction", ["ProjectedOrTrue"]),
  ("IfcStructuralPlanarActionVarying", ["VaryingAppliedLoadLocation", "SubsequentAppliedLoads"]),
  ("IfcStructuralConnection", ["AppliedCondition"]),
  ("IfcStructuralCurveMember", ["PredefinedType"]),
  ("IfcStructuralSurfaceMember", ["PredefinedType", "Thickness"]),
  ("IfcStructuralSurfaceMemberVarying", ["SubsequentThickness", "VaryingThicknessLocation"])]

def schema : Schema where
  hierarchy := Hierarchy.ofSubtypes roots
    (objects ++ products ++ typeObjects ++ relations ++ resources)
  ownAttributes := attributes
  decompositions := ["IfcRelAggregates", "IfcRelNests"]

end BuildingQuery.Ifc2x3
