import BuildingQuery.ModelFile.Schema

/-! The classes of IFC 4 and the attributes of its products. -/

namespace BuildingQuery.Ifc4

/-- Classes that are kinds of nothing. -/
def roots : List String := [
  "IfcActorRole", "IfcAddress", "IfcApplication", "IfcAppliedValue", "IfcApproval",
  "IfcBoundaryCondition", "IfcConnectionGeometry", "IfcConstraint", "IfcCoordinateOperation",
  "IfcCoordinateReferenceSystem", "IfcDerivedUnit", "IfcDerivedUnitElement",
  "IfcDimensionalExponents", "IfcExternalInformation", "IfcExternalReference", "IfcGridAxis",
  "IfcIrregularTimeSeriesValue", "IfcLightDistributionData", "IfcLightIntensityDistribution",
  "IfcMaterialClassificationRelationship", "IfcMaterialDefinition", "IfcMaterialList",
  "IfcMaterialUsageDefinition", "IfcMeasureWithUnit", "IfcMonetaryUnit", "IfcNamedUnit",
  "IfcObjectPlacement", "IfcOrganization", "IfcOwnerHistory", "IfcPerson",
  "IfcPersonAndOrganization", "IfcPhysicalQuantity", "IfcPresentationItem",
  "IfcPresentationLayerAssignment", "IfcPresentationStyle", "IfcPresentationStyleAssignment",
  "IfcProductRepresentation", "IfcProfileDef", "IfcPropertyAbstraction", "IfcRecurrencePattern",
  "IfcReference", "IfcRepresentation", "IfcRepresentationContext", "IfcRepresentationItem",
  "IfcRepresentationMap", "IfcResourceLevelRelationship", "IfcRoot", "IfcSchedulingTime",
  "IfcShapeAspect", "IfcStructuralConnectionCondition", "IfcStructuralLoad", "IfcTable",
  "IfcTableColumn", "IfcTableRow", "IfcTimePeriod", "IfcTimeSeries", "IfcTimeSeriesValue",
  "IfcUnitAssignment", "IfcVirtualGridIntersection"]

/-- Objects that are no products. -/
def objects : List (String × List String) := [
  ("IfcRoot", ["IfcObjectDefinition", "IfcPropertyDefinition", "IfcRelationship"]),
  ("IfcObjectDefinition", ["IfcContext", "IfcObject", "IfcTypeObject"]),
  ("IfcContext", ["IfcProject", "IfcProjectLibrary"]),
  ("IfcObject", ["IfcActor", "IfcControl", "IfcGroup", "IfcProcess", "IfcProduct", "IfcResource"]),
  ("IfcActor", ["IfcOccupant"]),
  ("IfcControl", ["IfcActionRequest", "IfcCostItem", "IfcCostSchedule", "IfcPerformanceHistory",
    "IfcPermit", "IfcProjectOrder", "IfcWorkCalendar", "IfcWorkControl"]),
  ("IfcWorkControl", ["IfcWorkPlan", "IfcWorkSchedule"]),
  ("IfcGroup", ["IfcAsset", "IfcInventory", "IfcStructuralLoadGroup",
    "IfcStructuralResultGroup", "IfcSystem"]),
  ("IfcStructuralLoadGroup", ["IfcStructuralLoadCase"]),
  ("IfcSystem", ["IfcBuildingSystem", "IfcDistributionSystem", "IfcStructuralAnalysisModel",
    "IfcZone"]),
  ("IfcDistributionSystem", ["IfcDistributionCircuit"]),
  ("IfcProcess", ["IfcEvent", "IfcProcedure", "IfcTask"]),
  ("IfcResource", ["IfcConstructionResource"]),
  ("IfcConstructionResource", ["IfcConstructionEquipmentResource",
    "IfcConstructionMaterialResource", "IfcConstructionProductResource", "IfcCrewResource",
    "IfcLaborResource", "IfcSubContractResource"])]

/-- Products: all that has a place. -/
def products : List (String × List String) := [
  ("IfcProduct", ["IfcAnnotation", "IfcElement", "IfcGrid", "IfcPort", "IfcProxy",
    "IfcSpatialElement", "IfcStructuralActivity", "IfcStructuralItem"]),
  ("IfcElement", ["IfcBuildingElement", "IfcCivilElement", "IfcDistributionElement",
    "IfcElementAssembly", "IfcElementComponent", "IfcFeatureElement", "IfcFurnishingElement",
    "IfcGeographicElement", "IfcTransportElement", "IfcVirtualElement"]),
  ("IfcBuildingElement", ["IfcBeam", "IfcBuildingElementProxy", "IfcChimney", "IfcColumn",
    "IfcCovering", "IfcCurtainWall", "IfcDoor", "IfcFooting", "IfcMember", "IfcPile",
    "IfcPlate", "IfcRailing", "IfcRamp", "IfcRampFlight", "IfcRoof", "IfcShadingDevice",
    "IfcSlab", "IfcStair", "IfcStairFlight", "IfcWall", "IfcWindow"]),
  ("IfcBeam", ["IfcBeamStandardCase"]),
  ("IfcColumn", ["IfcColumnStandardCase"]),
  ("IfcDoor", ["IfcDoorStandardCase"]),
  ("IfcMember", ["IfcMemberStandardCase"]),
  ("IfcPlate", ["IfcPlateStandardCase"]),
  ("IfcSlab", ["IfcSlabElementedCase", "IfcSlabStandardCase"]),
  ("IfcWall", ["IfcWallElementedCase", "IfcWallStandardCase"]),
  ("IfcWindow", ["IfcWindowStandardCase"]),
  ("IfcDistributionElement", ["IfcDistributionControlElement", "IfcDistributionFlowElement"]),
  ("IfcDistributionControlElement", ["IfcActuator", "IfcAlarm", "IfcController",
    "IfcFlowInstrument", "IfcProtectiveDeviceTrippingUnit", "IfcSensor",
    "IfcUnitaryControlElement"]),
  ("IfcDistributionFlowElement", ["IfcDistributionChamberElement", "IfcEnergyConversionDevice",
    "IfcFlowController", "IfcFlowFitting", "IfcFlowMovingDevice", "IfcFlowSegment",
    "IfcFlowStorageDevice", "IfcFlowTerminal", "IfcFlowTreatmentDevice"]),
  ("IfcEnergyConversionDevice", ["IfcAirToAirHeatRecovery", "IfcBoiler", "IfcBurner",
    "IfcChiller", "IfcCoil", "IfcCondenser", "IfcCooledBeam", "IfcCoolingTower",
    "IfcElectricGenerator", "IfcElectricMotor", "IfcEngine", "IfcEvaporativeCooler",
    "IfcEvaporator", "IfcHeatExchanger", "IfcHumidifier", "IfcMotorConnection",
    "IfcSolarDevice", "IfcTransformer", "IfcTubeBundle", "IfcUnitaryEquipment"]),
  ("IfcFlowController", ["IfcAirTerminalBox", "IfcDamper", "IfcElectricDistributionBoard",
    "IfcElectricTimeControl", "IfcFlowMeter", "IfcProtectiveDevice", "IfcSwitchingDevice",
    "IfcValve"]),
  ("IfcFlowFitting", ["IfcCableCarrierFitting", "IfcCableFitting", "IfcDuctFitting",
    "IfcJunctionBox", "IfcPipeFitting"]),
  ("IfcFlowMovingDevice", ["IfcCompressor", "IfcFan", "IfcPump"]),
  ("IfcFlowSegment", ["IfcCableCarrierSegment", "IfcCableSegment", "IfcDuctSegment",
    "IfcPipeSegment"]),
  ("IfcFlowStorageDevice", ["IfcElectricFlowStorageDevice", "IfcTank"]),
  ("IfcFlowTerminal", ["IfcAirTerminal", "IfcAudioVisualAppliance",
    "IfcCommunicationsAppliance", "IfcElectricAppliance", "IfcFireSuppressionTerminal",
    "IfcLamp", "IfcLightFixture", "IfcMedicalDevice", "IfcOutlet", "IfcSanitaryTerminal",
    "IfcSpaceHeater", "IfcStackTerminal", "IfcWasteTerminal"]),
  ("IfcFlowTreatmentDevice", ["IfcDuctSilencer", "IfcFilter", "IfcInterceptor"]),
  ("IfcElementComponent", ["IfcBuildingElementPart", "IfcDiscreteAccessory", "IfcFastener",
    "IfcMechanicalFastener", "IfcReinforcingElement", "IfcVibrationIsolator"]),
  ("IfcReinforcingElement", ["IfcReinforcingBar", "IfcReinforcingMesh", "IfcTendon",
    "IfcTendonAnchor"]),
  ("IfcFeatureElement", ["IfcFeatureElementAddition", "IfcFeatureElementSubtraction",
    "IfcSurfaceFeature"]),
  ("IfcFeatureElementAddition", ["IfcProjectionElement"]),
  ("IfcFeatureElementSubtraction", ["IfcOpeningElement", "IfcVoidingFeature"]),
  ("IfcOpeningElement", ["IfcOpeningStandardCase"]),
  ("IfcFurnishingElement", ["IfcFurniture", "IfcSystemFurnitureElement"]),
  ("IfcPort", ["IfcDistributionPort"]),
  ("IfcSpatialElement", ["IfcExternalSpatialStructureElement", "IfcSpatialStructureElement",
    "IfcSpatialZone"]),
  ("IfcExternalSpatialStructureElement", ["IfcExternalSpatialElement"]),
  ("IfcSpatialStructureElement", ["IfcBuilding", "IfcBuildingStorey", "IfcSite", "IfcSpace"]),
  ("IfcStructuralActivity", ["IfcStructuralAction", "IfcStructuralReaction"]),
  ("IfcStructuralAction", ["IfcStructuralCurveAction", "IfcStructuralPointAction",
    "IfcStructuralSurfaceAction"]),
  ("IfcStructuralCurveAction", ["IfcStructuralLinearAction"]),
  ("IfcStructuralSurfaceAction", ["IfcStructuralPlanarAction"]),
  ("IfcStructuralReaction", ["IfcStructuralCurveReaction", "IfcStructuralPointReaction",
    "IfcStructuralSurfaceReaction"]),
  ("IfcStructuralItem", ["IfcStructuralConnection", "IfcStructuralMember"]),
  ("IfcStructuralConnection", ["IfcStructuralCurveConnection", "IfcStructuralPointConnection",
    "IfcStructuralSurfaceConnection"]),
  ("IfcStructuralMember", ["IfcStructuralCurveMember", "IfcStructuralSurfaceMember"]),
  ("IfcStructuralCurveMember", ["IfcStructuralCurveMemberVarying"]),
  ("IfcStructuralSurfaceMember", ["IfcStructuralSurfaceMemberVarying"])]

/-- What objects of one kind have in common. -/
def typeObjects : List (String × List String) := [
  ("IfcTypeObject", ["IfcTypeProcess", "IfcTypeProduct", "IfcTypeResource"]),
  ("IfcTypeProcess", ["IfcEventType", "IfcProcedureType", "IfcTaskType"]),
  ("IfcTypeProduct", ["IfcDoorStyle", "IfcElementType", "IfcSpatialElementType",
    "IfcWindowStyle"]),
  ("IfcElementType", ["IfcBuildingElementType", "IfcCivilElementType",
    "IfcDistributionElementType", "IfcElementAssemblyType", "IfcElementComponentType",
    "IfcFurnishingElementType", "IfcGeographicElementType", "IfcTransportElementType"]),
  ("IfcBuildingElementType", ["IfcBeamType", "IfcBuildingElementProxyType", "IfcChimneyType",
    "IfcColumnType", "IfcCoveringType", "IfcCurtainWallType", "IfcDoorType", "IfcFootingType",
    "IfcMemberType", "IfcPileType", "IfcPlateType", "IfcRailingType", "IfcRampFlightType",
    "IfcRampType", "IfcRoofType", "IfcShadingDeviceType", "IfcSlabType", "IfcStairFlightType",
    "IfcStairType", "IfcWallType", "IfcWindowType"]),
  ("IfcDistributionElementType", ["IfcDistributionControlElementType",
    "IfcDistributionFlowElementType"]),
  ("IfcDistributionControlElementType", ["IfcActuatorType", "IfcAlarmType", "IfcControllerType",
    "IfcFlowInstrumentType", "IfcProtectiveDeviceTrippingUnitType", "IfcSensorType",
    "IfcUnitaryControlElementType"]),
  ("IfcDistributionFlowElementType", ["IfcDistributionChamberElementType",
    "IfcEnergyConversionDeviceType", "IfcFlowControllerType", "IfcFlowFittingType",
    "IfcFlowMovingDeviceType", "IfcFlowSegmentType", "IfcFlowStorageDeviceType",
    "IfcFlowTerminalType", "IfcFlowTreatmentDeviceType"]),
  ("IfcEnergyConversionDeviceType", ["IfcAirToAirHeatRecoveryType", "IfcBoilerType",
    "IfcBurnerType", "IfcChillerType", "IfcCoilType", "IfcCondenserType", "IfcCooledBeamType",
    "IfcCoolingTowerType", "IfcElectricGeneratorType", "IfcElectricMotorType", "IfcEngineType",
    "IfcEvaporativeCoolerType", "IfcEvaporatorType", "IfcHeatExchangerType",
    "IfcHumidifierType", "IfcMotorConnectionType", "IfcSolarDeviceType", "IfcTransformerType",
    "IfcTubeBundleType", "IfcUnitaryEquipmentType"]),
  ("IfcFlowControllerType", ["IfcAirTerminalBoxType", "IfcDamperType",
    "IfcElectricDistributionBoardType", "IfcElectricTimeControlType", "IfcFlowMeterType",
    "IfcProtectiveDeviceType", "IfcSwitchingDeviceType", "IfcValveType"]),
  ("IfcFlowFittingType", ["IfcCableCarrierFittingType", "IfcCableFittingType",
    "IfcDuctFittingType", "IfcJunctionBoxType", "IfcPipeFittingType"]),
  ("IfcFlowMovingDeviceType", ["IfcCompressorType", "IfcFanType", "IfcPumpType"]),
  ("IfcFlowSegmentType", ["IfcCableCarrierSegmentType", "IfcCableSegmentType",
    "IfcDuctSegmentType", "IfcPipeSegmentType"]),
  ("IfcFlowStorageDeviceType", ["IfcElectricFlowStorageDeviceType", "IfcTankType"]),
  ("IfcFlowTerminalType", ["IfcAirTerminalType", "IfcAudioVisualApplianceType",
    "IfcCommunicationsApplianceType", "IfcElectricApplianceType",
    "IfcFireSuppressionTerminalType", "IfcLampType", "IfcLightFixtureType",
    "IfcMedicalDeviceType", "IfcOutletType", "IfcSanitaryTerminalType", "IfcSpaceHeaterType",
    "IfcStackTerminalType", "IfcWasteTerminalType"]),
  ("IfcFlowTreatmentDeviceType", ["IfcDuctSilencerType", "IfcFilterType", "IfcInterceptorType"]),
  ("IfcElementComponentType", ["IfcBuildingElementPartType", "IfcDiscreteAccessoryType",
    "IfcFastenerType", "IfcMechanicalFastenerType", "IfcReinforcingElementType",
    "IfcVibrationIsolatorType"]),
  ("IfcReinforcingElementType", ["IfcReinforcingBarType", "IfcReinforcingMeshType",
    "IfcTendonAnchorType", "IfcTendonType"]),
  ("IfcFurnishingElementType", ["IfcFurnitureType", "IfcSystemFurnitureElementType"]),
  ("IfcSpatialElementType", ["IfcSpatialStructureElementType", "IfcSpatialZoneType"]),
  ("IfcSpatialStructureElementType", ["IfcSpaceType"]),
  ("IfcTypeResource", ["IfcConstructionResourceType"]),
  ("IfcConstructionResourceType", ["IfcConstructionEquipmentResourceType",
    "IfcConstructionMaterialResourceType", "IfcConstructionProductResourceType",
    "IfcCrewResourceType", "IfcLaborResourceType", "IfcSubContractResourceType"])]

/-- Sets of properties, and what relates objects. -/
def relations : List (String × List String) := [
  ("IfcPropertyDefinition", ["IfcPropertySetDefinition", "IfcPropertyTemplateDefinition"]),
  ("IfcPropertySetDefinition", ["IfcPreDefinedPropertySet", "IfcPropertySet", "IfcQuantitySet"]),
  ("IfcPreDefinedPropertySet", ["IfcDoorLiningProperties", "IfcDoorPanelProperties",
    "IfcPermeableCoveringProperties", "IfcReinforcementDefinitionProperties",
    "IfcWindowLiningProperties", "IfcWindowPanelProperties"]),
  ("IfcQuantitySet", ["IfcElementQuantity"]),
  ("IfcPropertyTemplateDefinition", ["IfcPropertySetTemplate", "IfcPropertyTemplate"]),
  ("IfcPropertyTemplate", ["IfcComplexPropertyTemplate", "IfcSimplePropertyTemplate"]),
  ("IfcRelationship", ["IfcRelAssigns", "IfcRelAssociates", "IfcRelConnects", "IfcRelDeclares",
    "IfcRelDecomposes", "IfcRelDefines"]),
  ("IfcRelAssigns", ["IfcRelAssignsToActor", "IfcRelAssignsToControl", "IfcRelAssignsToGroup",
    "IfcRelAssignsToProcess", "IfcRelAssignsToProduct", "IfcRelAssignsToResource"]),
  ("IfcRelAssignsToGroup", ["IfcRelAssignsToGroupByFactor"]),
  ("IfcRelAssociates", ["IfcRelAssociatesApproval", "IfcRelAssociatesClassification",
    "IfcRelAssociatesConstraint", "IfcRelAssociatesDocument", "IfcRelAssociatesLibrary",
    "IfcRelAssociatesMaterial"]),
  ("IfcRelConnects", ["IfcRelConnectsElements", "IfcRelConnectsPortToElement",
    "IfcRelConnectsPorts", "IfcRelConnectsStructuralActivity", "IfcRelConnectsStructuralMember",
    "IfcRelContainedInSpatialStructure", "IfcRelCoversBldgElements", "IfcRelCoversSpaces",
    "IfcRelFillsElement", "IfcRelFlowControlElements", "IfcRelInterferesElements",
    "IfcRelReferencedInSpatialStructure", "IfcRelSequence", "IfcRelServicesBuildings",
    "IfcRelSpaceBoundary"]),
  ("IfcRelConnectsElements", ["IfcRelConnectsPathElements",
    "IfcRelConnectsWithRealizingElements"]),
  ("IfcRelConnectsStructuralMember", ["IfcRelConnectsWithEccentricity"]),
  ("IfcRelSpaceBoundary", ["IfcRelSpaceBoundary1stLevel"]),
  ("IfcRelSpaceBoundary1stLevel", ["IfcRelSpaceBoundary2ndLevel"]),
  ("IfcRelDecomposes", ["IfcRelAggregates", "IfcRelNests", "IfcRelProjectsElement",
    "IfcRelVoidsElement"]),
  ("IfcRelDefines", ["IfcRelDefinesByObject", "IfcRelDefinesByProperties",
    "IfcRelDefinesByTemplate", "IfcRelDefinesByType"])]

/-- Parts of the description of objects, which have no identity of their own. -/
def resources : List (String × List String) := [
  ("IfcAddress", ["IfcPostalAddress", "IfcTelecomAddress"]),
  ("IfcAppliedValue", ["IfcCostValue"]),
  ("IfcBoundaryCondition", ["IfcBoundaryEdgeCondition", "IfcBoundaryFaceCondition",
    "IfcBoundaryNodeCondition"]),
  ("IfcBoundaryNodeCondition", ["IfcBoundaryNodeConditionWarping"]),
  ("IfcConnectionGeometry", ["IfcConnectionCurveGeometry", "IfcConnectionPointGeometry",
    "IfcConnectionSurfaceGeometry", "IfcConnectionVolumeGeometry"]),
  ("IfcConnectionPointGeometry", ["IfcConnectionPointEccentricity"]),
  ("IfcConstraint", ["IfcMetric", "IfcObjective"]),
  ("IfcCoordinateOperation", ["IfcMapConversion"]),
  ("IfcCoordinateReferenceSystem", ["IfcProjectedCRS"]),
  ("IfcExternalInformation", ["IfcClassification", "IfcDocumentInformation",
    "IfcLibraryInformation"]),
  ("IfcExternalReference", ["IfcClassificationReference", "IfcDocumentReference",
    "IfcExternallyDefinedHatchStyle", "IfcExternallyDefinedSurfaceStyle",
    "IfcExternallyDefinedTextFont", "IfcLibraryReference"]),
  ("IfcMaterialDefinition", ["IfcMaterial", "IfcMaterialConstituent",
    "IfcMaterialConstituentSet", "IfcMaterialLayer", "IfcMaterialLayerSet",
    "IfcMaterialProfile", "IfcMaterialProfileSet"]),
  ("IfcMaterialLayer", ["IfcMaterialLayerWithOffsets"]),
  ("IfcMaterialProfile", ["IfcMaterialProfileWithOffsets"]),
  ("IfcMaterialUsageDefinition", ["IfcMaterialLayerSetUsage", "IfcMaterialProfileSetUsage"]),
  ("IfcMaterialProfileSetUsage", ["IfcMaterialProfileSetUsageTapering"]),
  ("IfcNamedUnit", ["IfcContextDependentUnit", "IfcConversionBasedUnit", "IfcSIUnit"]),
  ("IfcConversionBasedUnit", ["IfcConversionBasedUnitWithOffset"]),
  ("IfcObjectPlacement", ["IfcGridPlacement", "IfcLocalPlacement"]),
  ("IfcPhysicalQuantity", ["IfcPhysicalComplexQuantity", "IfcPhysicalSimpleQuantity"]),
  ("IfcPhysicalSimpleQuantity", ["IfcQuantityArea", "IfcQuantityCount", "IfcQuantityLength",
    "IfcQuantityTime", "IfcQuantityVolume", "IfcQuantityWeight"]),
  ("IfcPresentationItem", ["IfcColourRgbList", "IfcColourSpecification", "IfcCurveStyleFont",
    "IfcCurveStyleFontAndScaling", "IfcCurveStyleFontPattern", "IfcIndexedColourMap",
    "IfcPreDefinedItem", "IfcSurfaceStyleLighting", "IfcSurfaceStyleRefraction",
    "IfcSurfaceStyleShading", "IfcSurfaceStyleWithTextures", "IfcSurfaceTexture",
    "IfcTextStyleForDefinedFont", "IfcTextStyleTextModel", "IfcTextureCoordinate",
    "IfcTextureVertex", "IfcTextureVertexList"]),
  ("IfcColourSpecification", ["IfcColourRgb"]),
  ("IfcPreDefinedItem", ["IfcPreDefinedColour", "IfcPreDefinedCurveFont",
    "IfcPreDefinedTextFont"]),
  ("IfcPreDefinedColour", ["IfcDraughtingPreDefinedColour"]),
  ("IfcPreDefinedCurveFont", ["IfcDraughtingPreDefinedCurveFont"]),
  ("IfcPreDefinedTextFont", ["IfcTextStyleFontModel"]),
  ("IfcSurfaceStyleShading", ["IfcSurfaceStyleRendering"]),
  ("IfcSurfaceTexture", ["IfcBlobTexture", "IfcImageTexture", "IfcPixelTexture"]),
  ("IfcTextureCoordinate", ["IfcIndexedTextureMap", "IfcTextureCoordinateGenerator",
    "IfcTextureMap"]),
  ("IfcIndexedTextureMap", ["IfcIndexedTriangleTextureMap"]),
  ("IfcPresentationLayerAssignment", ["IfcPresentationLayerWithStyle"]),
  ("IfcPresentationStyle", ["IfcCurveStyle", "IfcFillAreaStyle", "IfcSurfaceStyle",
    "IfcTextStyle"]),
  ("IfcProductRepresentation", ["IfcMaterialDefinitionRepresentation",
    "IfcProductDefinitionShape"]),
  ("IfcProfileDef", ["IfcArbitraryClosedProfileDef", "IfcArbitraryOpenProfileDef",
    "IfcCompositeProfileDef", "IfcDerivedProfileDef", "IfcParameterizedProfileDef"]),
  ("IfcArbitraryClosedProfileDef", ["IfcArbitraryProfileDefWithVoids"]),
  ("IfcArbitraryOpenProfileDef", ["IfcCenterLineProfileDef"]),
  ("IfcDerivedProfileDef", ["IfcMirroredProfileDef"]),
  ("IfcParameterizedProfileDef", ["IfcAsymmetricIShapeProfileDef", "IfcCShapeProfileDef",
    "IfcCircleProfileDef", "IfcEllipseProfileDef", "IfcIShapeProfileDef", "IfcLShapeProfileDef",
    "IfcRectangleProfileDef", "IfcTShapeProfileDef", "IfcTrapeziumProfileDef",
    "IfcUShapeProfileDef", "IfcZShapeProfileDef"]),
  ("IfcCircleProfileDef", ["IfcCircleHollowProfileDef"]),
  ("IfcRectangleProfileDef", ["IfcRectangleHollowProfileDef", "IfcRoundedRectangleProfileDef"]),
  ("IfcPropertyAbstraction", ["IfcExtendedProperties", "IfcPreDefinedProperties", "IfcProperty",
    "IfcPropertyEnumeration"]),
  ("IfcExtendedProperties", ["IfcMaterialProperties", "IfcProfileProperties"]),
  ("IfcPreDefinedProperties", ["IfcReinforcementBarProperties", "IfcSectionProperties",
    "IfcSectionReinforcementProperties"]),
  ("IfcProperty", ["IfcComplexProperty", "IfcSimpleProperty"]),
  ("IfcSimpleProperty", ["IfcPropertyBoundedValue", "IfcPropertyEnumeratedValue",
    "IfcPropertyListValue", "IfcPropertyReferenceValue", "IfcPropertySingleValue",
    "IfcPropertyTableValue"]),
  ("IfcRepresentation", ["IfcShapeModel", "IfcStyleModel"]),
  ("IfcShapeModel", ["IfcShapeRepresentation", "IfcTopologyRepresentation"]),
  ("IfcStyleModel", ["IfcStyledRepresentation"]),
  ("IfcRepresentationContext", ["IfcGeometricRepresentationContext"]),
  ("IfcGeometricRepresentationContext", ["IfcGeometricRepresentationSubContext"]),
  ("IfcRepresentationItem", ["IfcGeometricRepresentationItem", "IfcMappedItem", "IfcStyledItem",
    "IfcTopologicalRepresentationItem"]),
  ("IfcGeometricRepresentationItem", ["IfcAnnotationFillArea", "IfcBooleanResult",
    "IfcBoundingBox", "IfcCartesianPointList", "IfcCartesianTransformationOperator",
    "IfcCompositeCurveSegment", "IfcCsgPrimitive3D", "IfcCurve", "IfcDirection",
    "IfcFaceBasedSurfaceModel", "IfcFillAreaStyleHatching", "IfcFillAreaStyleTiles",
    "IfcGeometricSet", "IfcHalfSpaceSolid", "IfcLightSource", "IfcPlacement", "IfcPlanarExtent",
    "IfcPoint", "IfcSectionedSpine", "IfcShellBasedSurfaceModel", "IfcSolidModel", "IfcSurface",
    "IfcTessellatedItem", "IfcTextLiteral", "IfcVector"]),
  ("IfcBooleanResult", ["IfcBooleanClippingResult"]),
  ("IfcCartesianPointList", ["IfcCartesianPointList2D", "IfcCartesianPointList3D"]),
  ("IfcCartesianTransformationOperator", ["IfcCartesianTransformationOperator2D",
    "IfcCartesianTransformationOperator3D"]),
  ("IfcCartesianTransformationOperator2D", ["IfcCartesianTransformationOperator2DnonUniform"]),
  ("IfcCartesianTransformationOperator3D", ["IfcCartesianTransformationOperator3DnonUniform"]),
  ("IfcCompositeCurveSegment", ["IfcReparametrisedCompositeCurveSegment"]),
  ("IfcCsgPrimitive3D", ["IfcBlock", "IfcRectangularPyramid", "IfcRightCircularCone",
    "IfcRightCircularCylinder", "IfcSphere"]),
  ("IfcCurve", ["IfcBoundedCurve", "IfcConic", "IfcLine", "IfcOffsetCurve2D",
    "IfcOffsetCurve3D", "IfcPcurve", "IfcSurfaceCurve"]),
  ("IfcBoundedCurve", ["IfcBSplineCurve", "IfcCompositeCurve", "IfcIndexedPolyCurve",
    "IfcPolyline", "IfcTrimmedCurve"]),
  ("IfcBSplineCurve", ["IfcBSplineCurveWithKnots"]),
  ("IfcBSplineCurveWithKnots", ["IfcRationalBSplineCurveWithKnots"]),
  ("IfcCompositeCurve", ["IfcCompositeCurveOnSurface"]),
  ("IfcCompositeCurveOnSurface", ["IfcBoundaryCurve"]),
  ("IfcBoundaryCurve", ["IfcOuterBoundaryCurve"]),
  ("IfcConic", ["IfcCircle", "IfcEllipse"]),
  ("IfcSurfaceCurve", ["IfcIntersectionCurve", "IfcSeamCurve"]),
  ("IfcGeometricSet", ["IfcGeometricCurveSet"]),
  ("IfcHalfSpaceSolid", ["IfcBoxedHalfSpace", "IfcPolygonalBoundedHalfSpace"]),
  ("IfcLightSource", ["IfcLightSourceAmbient", "IfcLightSourceDirectional",
    "IfcLightSourceGoniometric", "IfcLightSourcePositional"]),
  ("IfcLightSourcePositional", ["IfcLightSourceSpot"]),
  ("IfcPlacement", ["IfcAxis1Placement", "IfcAxis2Placement2D", "IfcAxis2Placement3D"]),
  ("IfcPlanarExtent", ["IfcPlanarBox"]),
  ("IfcPoint", ["IfcCartesianPoint", "IfcPointOnCurve", "IfcPointOnSurface"]),
  ("IfcSolidModel", ["IfcCsgSolid", "IfcManifoldSolidBrep", "IfcSweptAreaSolid",
    "IfcSweptDiskSolid"]),
  ("IfcManifoldSolidBrep", ["IfcAdvancedBrep", "IfcFacetedBrep"]),
  ("IfcAdvancedBrep", ["IfcAdvancedBrepWithVoids"]),
  ("IfcFacetedBrep", ["IfcFacetedBrepWithVoids"]),
  ("IfcSweptAreaSolid", ["IfcExtrudedAreaSolid", "IfcFixedReferenceSweptAreaSolid",
    "IfcRevolvedAreaSolid", "IfcSurfaceCurveSweptAreaSolid"]),
  ("IfcExtrudedAreaSolid", ["IfcExtrudedAreaSolidTapered"]),
  ("IfcRevolvedAreaSolid", ["IfcRevolvedAreaSolidTapered"]),
  ("IfcSweptDiskSolid", ["IfcSweptDiskSolidPolygonal"]),
  ("IfcSurface", ["IfcBoundedSurface", "IfcElementarySurface", "IfcSweptSurface"]),
  ("IfcBoundedSurface", ["IfcBSplineSurface", "IfcCurveBoundedPlane", "IfcCurveBoundedSurface",
    "IfcRectangularTrimmedSurface"]),
  ("IfcBSplineSurface", ["IfcBSplineSurfaceWithKnots"]),
  ("IfcBSplineSurfaceWithKnots", ["IfcRationalBSplineSurfaceWithKnots"]),
  ("IfcElementarySurface", ["IfcCylindricalSurface", "IfcPlane", "IfcSphericalSurface",
    "IfcToroidalSurface"]),
  ("IfcSweptSurface", ["IfcSurfaceOfLinearExtrusion", "IfcSurfaceOfRevolution"]),
  ("IfcTessellatedItem", ["IfcIndexedPolygonalFace", "IfcTessellatedFaceSet"]),
  ("IfcIndexedPolygonalFace", ["IfcIndexedPolygonalFaceWithVoids"]),
  ("IfcTessellatedFaceSet", ["IfcPolygonalFaceSet", "IfcTriangulatedFaceSet"]),
  ("IfcTextLiteral", ["IfcTextLiteralWithExtent"]),
  ("IfcTopologicalRepresentationItem", ["IfcConnectedFaceSet", "IfcEdge", "IfcFace",
    "IfcFaceBound", "IfcLoop", "IfcPath", "IfcVertex"]),
  ("IfcConnectedFaceSet", ["IfcClosedShell", "IfcOpenShell"]),
  ("IfcEdge", ["IfcEdgeCurve", "IfcOrientedEdge", "IfcSubedge"]),
  ("IfcFace", ["IfcFaceSurface"]),
  ("IfcFaceSurface", ["IfcAdvancedFace"]),
  ("IfcFaceBound", ["IfcFaceOuterBound"]),
  ("IfcLoop", ["IfcEdgeLoop", "IfcPolyLoop", "IfcVertexLoop"]),
  ("IfcVertex", ["IfcVertexPoint"]),
  ("IfcResourceLevelRelationship", ["IfcApprovalRelationship", "IfcCurrencyRelationship",
    "IfcDocumentInformationRelationship", "IfcExternalReferenceRelationship",
    "IfcMaterialRelationship", "IfcOrganizationRelationship",
    "IfcPropertyDependencyRelationship", "IfcResourceApprovalRelationship",
    "IfcResourceConstraintRelationship"]),
  ("IfcSchedulingTime", ["IfcEventTime", "IfcLagTime", "IfcResourceTime", "IfcTaskTime",
    "IfcWorkTime"]),
  ("IfcTaskTime", ["IfcTaskTimeRecurring"]),
  ("IfcStructuralConnectionCondition", ["IfcFailureConnectionCondition",
    "IfcSlippageConnectionCondition"]),
  ("IfcStructuralLoad", ["IfcStructuralLoadConfiguration", "IfcStructuralLoadOrResult"]),
  ("IfcStructuralLoadOrResult", ["IfcStructuralLoadStatic", "IfcSurfaceReinforcementArea"]),
  ("IfcStructuralLoadStatic", ["IfcStructuralLoadLinearForce", "IfcStructuralLoadPlanarForce",
    "IfcStructuralLoadSingleDisplacement", "IfcStructuralLoadSingleForce",
    "IfcStructuralLoadTemperature"]),
  ("IfcStructuralLoadSingleDisplacement", ["IfcStructuralLoadSingleDisplacementDistortion"]),
  ("IfcStructuralLoadSingleForce", ["IfcStructuralLoadSingleForceWarping"]),
  ("IfcTimeSeries", ["IfcIrregularTimeSeries", "IfcRegularTimeSeries"])]

/-- Products whose own attribute is a predefined type. -/
def typed : List String := [
  "IfcBeam", "IfcBuildingElementProxy", "IfcChimney", "IfcColumn", "IfcCovering",
  "IfcCurtainWall", "IfcFooting", "IfcMember", "IfcPlate", "IfcRailing", "IfcRamp",
  "IfcRampFlight", "IfcRoof", "IfcShadingDevice", "IfcSlab", "IfcStair", "IfcWall",
  "IfcBuildingElementPart", "IfcDiscreteAccessory", "IfcFastener", "IfcVibrationIsolator",
  "IfcTendonAnchor", "IfcProjectionElement", "IfcOpeningElement", "IfcVoidingFeature",
  "IfcSurfaceFeature", "IfcFurniture", "IfcSystemFurnitureElement", "IfcGeographicElement",
  "IfcTransportElement", "IfcDistributionChamberElement", "IfcStructuralCurveReaction",
  "IfcStructuralSurfaceReaction", "IfcActuator", "IfcAlarm", "IfcController",
  "IfcFlowInstrument", "IfcProtectiveDeviceTrippingUnit", "IfcSensor",
  "IfcUnitaryControlElement", "IfcAirToAirHeatRecovery", "IfcBoiler", "IfcBurner", "IfcChiller",
  "IfcCoil", "IfcCondenser", "IfcCooledBeam", "IfcCoolingTower", "IfcElectricGenerator",
  "IfcElectricMotor", "IfcEngine", "IfcEvaporativeCooler", "IfcEvaporator", "IfcHeatExchanger",
  "IfcHumidifier", "IfcMotorConnection", "IfcSolarDevice", "IfcTransformer", "IfcTubeBundle",
  "IfcUnitaryEquipment", "IfcAirTerminalBox", "IfcDamper", "IfcElectricDistributionBoard",
  "IfcElectricTimeControl", "IfcFlowMeter", "IfcProtectiveDevice", "IfcSwitchingDevice",
  "IfcValve", "IfcCableCarrierFitting", "IfcCableFitting", "IfcDuctFitting", "IfcJunctionBox",
  "IfcPipeFitting", "IfcCompressor", "IfcFan", "IfcPump", "IfcCableCarrierSegment",
  "IfcCableSegment", "IfcDuctSegment", "IfcPipeSegment", "IfcElectricFlowStorageDevice",
  "IfcTank", "IfcAirTerminal", "IfcAudioVisualAppliance", "IfcCommunicationsAppliance",
  "IfcElectricAppliance", "IfcFireSuppressionTerminal", "IfcLamp", "IfcLightFixture",
  "IfcMedicalDevice", "IfcOutlet", "IfcSanitaryTerminal", "IfcSpaceHeater", "IfcStackTerminal",
  "IfcWasteTerminal", "IfcDuctSilencer", "IfcFilter", "IfcInterceptor"]

/-- The attributes that a class adds to those of its supertypes. -/
def attributes : List (String × List String) := [
  ("IfcRoot", ["GlobalId", "OwnerHistory", "Name", "Description"]),
  ("IfcObject", ["ObjectType"]),
  ("IfcProduct", ["ObjectPlacement", "Representation"]),
  ("IfcElement", ["Tag"]),
  ("IfcProxy", ["ProxyType", "Tag"]),
  ("IfcGrid", ["UAxes", "VAxes", "WAxes", "PredefinedType"]),
  ("IfcDistributionPort", ["FlowDirection", "PredefinedType", "SystemType"]),
  ("IfcSpatialElement", ["LongName"]),
  ("IfcSpatialStructureElement", ["CompositionType"]),
  ("IfcBuilding", ["ElevationOfRefHeight", "ElevationOfTerrain", "BuildingAddress"]),
  ("IfcBuildingStorey", ["Elevation"]),
  ("IfcSite", ["RefLatitude", "RefLongitude", "RefElevation", "LandTitleNumber", "SiteAddress"]),
  ("IfcSpace", ["PredefinedType", "ElevationWithFlooring"]),
  ("IfcSpatialZone", ["PredefinedType"]),
  ("IfcExternalSpatialElement", ["PredefinedType"]),
  ("IfcDoor", ["OverallHeight", "OverallWidth", "PredefinedType", "OperationType",
    "UserDefinedOperationType"]),
  ("IfcWindow", ["OverallHeight", "OverallWidth", "PredefinedType", "PartitioningType",
    "UserDefinedPartitioningType"]),
  ("IfcPile", ["PredefinedType", "ConstructionType"]),
  ("IfcStairFlight", ["NumberOfRisers", "NumberOfTreads", "RiserHeight", "TreadLength",
    "PredefinedType"]),
  ("IfcElementAssembly", ["AssemblyPlace", "PredefinedType"]),
  ("IfcMechanicalFastener", ["NominalDiameter", "NominalLength", "PredefinedType"]),
  ("IfcReinforcingElement", ["SteelGrade"]),
  ("IfcReinforcingBar", ["NominalDiameter", "CrossSectionArea", "BarLength", "PredefinedType",
    "BarSurface"]),
  ("IfcReinforcingMesh", ["MeshLength", "MeshWidth", "LongitudinalBarNominalDiameter",
    "TransverseBarNominalDiameter", "LongitudinalBarCrossSectionArea",
    "TransverseBarCrossSectionArea", "LongitudinalBarSpacing", "TransverseBarSpacing",
    "PredefinedType"]),
  ("IfcTendon", ["PredefinedType", "NominalDiameter", "CrossSectionArea", "TensionForce",
    "PreStress", "FrictionCoefficient", "AnchorageSlip", "MinCurvatureRadius"]),
  ("IfcStructuralActivity", ["AppliedLoad", "GlobalOrLocal"]),
  ("IfcStructuralAction", ["DestabilizingLoad"]),
  ("IfcStructuralCurveAction", ["ProjectedOrTrue", "PredefinedType"]),
  ("IfcStructuralSurfaceAction", ["ProjectedOrTrue", "PredefinedType"]),
  ("IfcStructuralConnection", ["AppliedCondition"]),
  ("IfcStructuralCurveConnection", ["Axis"]),
  ("IfcStructuralPointConnection", ["ConditionCoordinateSystem"]),
  ("IfcStructuralCurveMember", ["PredefinedType", "Axis"]),
  ("IfcStructuralSurfaceMember", ["PredefinedType", "Thickness"])]

def schema : Schema where
  hierarchy := Hierarchy.ofSubtypes roots
    (objects ++ products ++ typeObjects ++ relations ++ resources)
  ownAttributes := attributes ++ typed.map fun name => (name, ["PredefinedType"])
  decompositions := ["IfcRelAggregates"]

end BuildingQuery.Ifc4
